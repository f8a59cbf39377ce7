import Mathlib.Data.List.TakeWhile
import ServiceProbe.Text.Cut

/-! # Words and the gaps between them

A line is written as tokens with gaps of spaces and tabs between them. A token may hold blanks, but
neither begins nor ends with one; what is read first off a line, its first word up to a blank, is
then the first token whenever that token holds no blank, and the blanks that are left do not
count. -/

namespace ServiceProbe.Text
set_option autoImplicit false

structure IsWord (t : Text) : Prop where
  ne_nil : t ≠ []
  solid : ∀ c ∈ t, isBlank c = false

structure IsGap (t : Text) : Prop where
  ne_nil : t ≠ []
  spaces : ∀ c ∈ t, c = ' ' ∨ c = '\t'

structure IsTight (t : Text) : Prop where
  first : ∃ c rest, t = c :: rest ∧ isBlank c = false
  last : ∃ front c, t = front ++ [c] ∧ isBlank c = false

/-- Tokens with a gap between any two neighbours. -/
inductive Spaced : List Text → Text → Prop
  | single (token : Text) : Spaced [token] token
  | cons {token gap rest : Text} {tokens : List Text} (hGap : IsGap gap) (h : Spaced tokens rest) :
    Spaced (token :: tokens) (token ++ (gap ++ rest))

/-- A line that begins with a certain word and lies between two others of a text. -/
structure Headed (w line : Text) : Prop where
  isTight : IsTight line
  free : '\n' ∉ line
  starts : w <+: line
  first : (nextWord? line).map (·.1) = some w

def IsPadded (t padded : Text) : Prop :=
  ∃ blanks, (∀ c ∈ blanks, isBlank c = true) ∧ padded = blanks ++ t

instance (t : Text) : Decidable (IsWord t) :=
  decidable_of_iff (t.isEmpty = false ∧ (t.all fun c => !isBlank c) = true)
    ⟨fun h => ⟨by simpa using h.1, by simpa using h.2⟩,
      fun h => ⟨by simpa using h.ne_nil, by simpa using h.solid⟩⟩

theorem isGap_space : IsGap [' '] := ⟨by simp, by simp⟩

theorem IsGap.blank {gap : Text} (h : IsGap gap) : ∀ c ∈ gap, isBlank c = true := by
  intro c hc
  rcases h.spaces c hc with rfl | rfl <;> rfl

theorem IsWord.isTight {w : Text} (h : IsWord w) : IsTight w := by
  constructor
  · obtain ⟨c, rest, rfl⟩ := List.exists_cons_of_ne_nil h.ne_nil
    exact ⟨c, rest, rfl, h.solid c List.mem_cons_self⟩
  · refine ⟨w.dropLast, w.getLast h.ne_nil, (List.dropLast_concat_getLast h.ne_nil).symm, ?_⟩
    exact h.solid _ (List.getLast_mem h.ne_nil)

theorem IsWord.free {w : Text} (h : IsWord w) : '\n' ∉ w := by
  intro hIn
  exact absurd (h.solid _ hIn) (by decide)

theorem IsTight.between {t u : Text} (ht : IsTight t) (hu : IsTight u) (middle : Text) :
    IsTight (t ++ (middle ++ u)) := by
  obtain ⟨c, rest, rfl, hc⟩ := ht.first
  obtain ⟨front, d, rfl, hd⟩ := hu.last
  exact ⟨⟨c, rest ++ (middle ++ (front ++ [d])), rfl, hc⟩,
    ⟨c :: rest ++ (middle ++ front), d, by simp, hd⟩⟩

/-! ## Blanks before a text -/

theorem IsPadded.refl (t : Text) : IsPadded t t := ⟨[], by simp, rfl⟩

theorem IsPadded.ne_nil {t padded : Text} (h : IsPadded t padded) (ht : IsTight t) : padded ≠ [] := by
  obtain ⟨blanks, _, rfl⟩ := h
  obtain ⟨c, rest, rfl, _⟩ := ht.first
  simp

theorem IsPadded.trimStart {t padded : Text} (h : IsPadded t padded) (ht : IsTight t) :
    padded.trimStart = t := by
  obtain ⟨blanks, hBlanks, rfl⟩ := h
  obtain ⟨c, rest, rfl, hc⟩ := ht.first
  rw [Text.trimStart, List.dropWhile_append_of_pos hBlanks, List.dropWhile_cons_of_neg (by simp [hc])]

theorem IsTight.trimStart_append {t : Text} (h : IsTight t) (rest : Text) :
    trimStart (t ++ rest) = t ++ rest := by
  obtain ⟨c, others, rfl, hc⟩ := h.first
  exact List.dropWhile_cons_of_neg (by simp [hc])

theorem IsPadded.trim {t padded : Text} (h : IsPadded t padded) (ht : IsTight t) :
    padded.trim = t := by
  rw [Text.trim, h.trimStart ht]
  obtain ⟨front, c, rfl, hc⟩ := ht.last
  rw [trimEnd, List.reverse_concat, List.dropWhile_cons_of_neg (by simp [hc]), ← List.reverse_concat,
    List.reverse_reverse]

theorem IsTight.trim {t : Text} (h : IsTight t) : t.trim = t := (IsPadded.refl t).trim h

/-! ## Cutting -/

theorem cutAt?_of_first {p : Char → Bool} {head : Text} (hHead : ∀ c ∈ head, p c = false) {d : Char}
    (hd : p d = true) (rest : Text) : cutAt? p (head ++ d :: rest) = some (head, rest) := by
  have hPass : ∀ c ∈ head, (!p c) = true := fun c hc => by simp [hHead c hc]
  simp only [cutAt?, List.dropWhile_append_of_pos hPass, List.takeWhile_append_of_pos hPass,
    List.dropWhile_cons, List.takeWhile_cons, hd, Bool.not_true, Bool.false_eq_true, if_false,
    List.append_nil]

theorem cutAt?_eq_none {p : Char → Bool} {t : Text} (h : ∀ c ∈ t, p c = false) :
    cutAt? p t = none := by
  have hAll : t.dropWhile (fun c => !p c) = [] :=
    List.dropWhile_eq_nil_iff.mpr fun c hc => by simp [h c hc]
  rw [cutAt?, hAll]

theorem delimited?_of_not_mem {d : Char} {inside : Text} (h : d ∉ inside) (rest : Text) :
    delimited? (d :: (inside ++ d :: rest)) = some (inside, rest) := by
  have hInside : ∀ c ∈ inside, (c == d) = false := by
    intro c hc
    refine beq_eq_false_iff_ne.mpr ?_
    rintro rfl
    exact h hc
  rw [delimited?, cutOn?, cutAt?_of_first hInside (beq_self_eq_true d)]

theorem word_append_of_solid {w : Text} (h : ∀ c ∈ w, isBlank c = false) {rest : Text}
    (hRest : ∀ c ∈ rest.head?, isBlank c = true) : word (w ++ rest) = (w, rest) := by
  have hSolid : ∀ c ∈ w, (!isBlank c) = true := fun c hc => by simp [h c hc]
  have hStop : rest.takeWhile (fun c => !isBlank c) = [] ∧
      rest.dropWhile (fun c => !isBlank c) = rest := by
    cases rest with
    | nil => exact ⟨rfl, rfl⟩
    | cons c rest => simp [hRest c (by simp)]
  rw [word, List.takeWhile_append_of_pos hSolid, List.dropWhile_append_of_pos hSolid, hStop.1, hStop.2,
    List.append_nil]

namespace Spaced

variable {token next w line : Text} {tokens : List Text}

theorem exists_of_ne_nil (h : tokens ≠ []) : ∃ line, Spaced tokens line := by
  induction tokens with
  | nil => exact absurd rfl h
  | cons token tokens ih =>
    cases tokens with
    | nil => exact ⟨token, single token⟩
    | cons next tokens =>
      obtain ⟨rest, hRest⟩ := ih (List.cons_ne_nil _ _)
      exact ⟨_, cons isGap_space hRest⟩

theorem eq_of_singleton (h : Spaced [token] line) : line = token := by
  cases h with
  | single => rfl
  | cons _ hRest => cases hRest

theorem isTight (h : Spaced tokens line) (hTokens : ∀ t ∈ tokens, IsTight t) : IsTight line := by
  induction h with
  | single token => exact hTokens token List.mem_cons_self
  | cons hGap hRest ih =>
    obtain ⟨hToken, hRest⟩ := List.forall_mem_cons.mp hTokens
    exact hToken.between (ih hRest) _

theorem not_mem (h : Spaced tokens line) {c : Char} (hSpace : c ≠ ' ') (hTab : c ≠ '\t')
    (hTokens : ∀ t ∈ tokens, c ∉ t) : c ∉ line := by
  induction h with
  | single token => exact hTokens token List.mem_cons_self
  | cons hGap hRest ih =>
    intro hMem
    rcases List.mem_append.mp hMem with hToken | hMem
    · exact hTokens _ List.mem_cons_self hToken
    · rcases List.mem_append.mp hMem with hIn | hIn
      · exact (hGap.spaces c hIn).elim hSpace hTab
      · exact ih (fun t ht => hTokens t (List.mem_cons_of_mem _ ht)) hIn

theorem exists_tail (h : Spaced (token :: tokens) line) :
    ∃ tail, line = token ++ tail ∧ (∀ c ∈ tail.head?, isBlank c = true) ∧
      ((tokens = [] ∧ tail = []) ∨ ∃ rest, IsPadded rest tail ∧ Spaced tokens rest) := by
  cases h with
  | single => exact ⟨[], (List.append_nil _).symm, by simp, Or.inl ⟨rfl, rfl⟩⟩
  | cons hGap hRest =>
    refine ⟨_, rfl, ?_, Or.inr ⟨_, ⟨_, hGap.blank, rfl⟩, hRest⟩⟩
    obtain ⟨c, blanks, rfl⟩ := List.exists_cons_of_ne_nil hGap.ne_nil
    simp [hGap.blank c]

theorem cutAt?_isBlank (h : Spaced (w :: next :: tokens) line) (hw : IsWord w) :
    ∃ rest padded, cutAt? isBlank line = some (w, padded) ∧ IsPadded rest padded ∧
      Spaced (next :: tokens) rest := by
  obtain _ | ⟨hGap, hRest⟩ := h
  rename_i gap rest
  obtain ⟨c, blanks, rfl⟩ := List.exists_cons_of_ne_nil hGap.ne_nil
  obtain ⟨hc, hBlanks⟩ := List.forall_mem_cons.mp hGap.blank
  exact ⟨rest, blanks ++ rest, cutAt?_of_first hw.solid hc _, ⟨blanks, hBlanks, rfl⟩, hRest⟩

theorem nextWord? (h : Spaced (w :: next :: tokens) line) (hw : IsWord w) {padded : Text}
    (hPadded : IsPadded line padded) (hTight : ∀ t ∈ next :: tokens, IsTight t) :
    ∃ rest after, Text.nextWord? padded = some (w, after) ∧ IsPadded rest after ∧
      Spaced (next :: tokens) rest := by
  have hLine : IsTight line := h.isTight (List.forall_mem_cons.mpr ⟨hw.isTight, hTight⟩)
  obtain ⟨tail, rfl, hBlank, ⟨hNil, _⟩ | ⟨rest, hTail, hRest⟩⟩ := h.exists_tail
  · cases hNil
  · refine ⟨rest, tail, ?_, hTail, hRest⟩
    obtain ⟨c, others, rfl⟩ := List.exists_cons_of_ne_nil hw.ne_nil
    rw [Text.nextWord?, hPadded.trimStart hLine]
    exact congrArg some (word_append_of_solid hw.solid hBlank)

theorem headed (h : Spaced (w :: next :: tokens) line) (hw : IsWord w)
    (hTokens : ∀ t ∈ next :: tokens, IsTight t ∧ '\n' ∉ t) : Headed w line := by
  have hTight : ∀ t ∈ next :: tokens, IsTight t := fun t ht => (hTokens t ht).1
  obtain ⟨rest, after, hFirst, _, _⟩ := h.nextWord? hw (IsPadded.refl line) hTight
  have hLineFree : '\n' ∉ line := h.not_mem (by decide) (by decide)
    (List.forall_mem_cons.mpr ⟨hw.free, fun t ht => (hTokens t ht).2⟩)
  obtain ⟨tail, hTail, _⟩ := h.exists_tail
  exact ⟨h.isTight (List.forall_mem_cons.mpr ⟨hw.isTight, hTight⟩), hLineFree, ⟨tail, hTail.symm⟩,
    by rw [hFirst]; rfl⟩

end Spaced
end ServiceProbe.Text
