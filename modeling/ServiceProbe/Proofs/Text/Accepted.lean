import ServiceProbe.Digits
import ServiceProbe.Proofs.Text.Spacing
import ServiceProbe.Text.Number

/-! # Texts that are accepted

What trimming, cutting and reading a number make of a text is told by how the text is put together,
so that a text they accept can be taken apart as well as one that is put together is accepted. -/

namespace ServiceProbe.Text
set_option autoImplicit false

/-- A text with blanks on both sides of it. -/
def IsSurrounded (t padded : Text) : Prop :=
  ∃ left right : Text, (∀ c ∈ left, isBlank c = true) ∧ (∀ c ∈ right, isBlank c = true) ∧
    padded = left ++ (t ++ right)

/-- Digits that say a number, with a plus sign in front of them or none. -/
def IsNumeral (n : Nat) (t : Text) : Prop :=
  ∃ sign digits : Text, (sign = [] ∨ sign = ['+']) ∧ digits ≠ [] ∧
    (∀ c ∈ digits, c.isDigit = true) ∧ Digits.value 10 (digits.map digitValue) = n ∧
    t = sign ++ digits

/-! ## Trimming -/

theorem trimStart_append_of_blank {left : Text} (h : ∀ c ∈ left, isBlank c = true) (t : Text) :
    trimStart (left ++ t) = trimStart t :=
  List.dropWhile_append_of_pos h

theorem trimEnd_append_of_blank {right : Text} (h : ∀ c ∈ right, isBlank c = true) (t : Text) :
    trimEnd (t ++ right) = trimEnd t := by
  have hReverse : ∀ c ∈ right.reverse, isBlank c = true := fun c hc => h c (List.mem_reverse.mp hc)
  rw [trimEnd, List.reverse_append, List.dropWhile_append_of_pos hReverse, trimEnd]

theorem trimStart_append_cons (t : Text) {c : Char} (hc : isBlank c = false) (rest : Text) :
    trimStart (t ++ c :: rest) = trimStart t ++ c :: rest := by
  induction t with
  | nil => simp [trimStart, hc]
  | cons d t ih =>
    by_cases hd : isBlank d = true
    · simpa [trimStart, hd] using ih
    · simp [trimStart, hd]

theorem trimEnd_append_cons (t : Text) {c : Char} (hc : isBlank c = false) (rest : Text) :
    trimEnd (t ++ c :: rest) = t ++ c :: trimEnd rest := by
  have hStart := trimStart_append_cons rest.reverse hc t.reverse
  rw [trimStart, trimStart] at hStart
  rw [trimEnd, List.reverse_append, List.reverse_cons, List.append_assoc, List.singleton_append,
    hStart, trimEnd]
  simp

theorem trim_append_cons (t : Text) {c : Char} (hc : isBlank c = false) (rest : Text) :
    trim (t ++ c :: rest) = trimStart t ++ c :: trimEnd rest := by
  rw [trim, trimStart_append_cons t hc, trimEnd_append_cons _ hc]

theorem IsSurrounded.trans {t u v : Text} (h : IsSurrounded t u) (k : IsSurrounded u v) :
    IsSurrounded t v := by
  obtain ⟨left, right, hLeft, hRight, rfl⟩ := h
  obtain ⟨left', right', hLeft', hRight', rfl⟩ := k
  refine ⟨left' ++ left, right ++ right', ?_, ?_, by simp⟩
  · exact List.forall_mem_append.mpr ⟨hLeft', hLeft⟩
  · exact List.forall_mem_append.mpr ⟨hRight, hRight'⟩

theorem isSurrounded_trimStart (t : Text) : IsSurrounded t.trimStart t := by
  refine ⟨t.takeWhile isBlank, [], fun c hc => List.mem_takeWhile_imp hc, by simp, ?_⟩
  rw [List.append_nil, trimStart, List.takeWhile_append_dropWhile]

theorem isSurrounded_trimEnd (t : Text) : IsSurrounded t.trimEnd t := by
  refine ⟨[], (t.reverse.takeWhile isBlank).reverse, by simp, fun c hc => ?_, ?_⟩
  · exact List.mem_takeWhile_imp (List.mem_reverse.mp hc)
  · rw [trimEnd, List.nil_append, ← List.reverse_append, List.takeWhile_append_dropWhile,
      List.reverse_reverse]

theorem isSurrounded_trim (t : Text) : IsSurrounded t.trim t :=
  (isSurrounded_trimEnd _).trans (isSurrounded_trimStart t)

theorem mem_of_mem_trim {t : Text} {c : Char} (h : c ∈ t.trim) : c ∈ t := by
  obtain ⟨left, right, _, _, hSplit⟩ := isSurrounded_trim t
  rw [hSplit]
  exact List.mem_append_right left (List.mem_append_left right h)

theorem IsSurrounded.trim_eq {t padded : Text} (h : IsSurrounded t padded) : padded.trim = t.trim := by
  obtain ⟨left, right, hLeft, hRight, rfl⟩ := h
  by_cases hBlank : ∀ c ∈ t, isBlank c = true
  · have hAll (u : Text) (hu : ∀ c ∈ u, isBlank c = true) : u.trim = [] := by
      have hNone := trimStart_append_of_blank hu []
      rw [List.append_nil] at hNone
      rw [Text.trim, hNone]
      rfl
    rw [hAll t hBlank, hAll]
    exact List.forall_mem_append.mpr ⟨hLeft, List.forall_mem_append.mpr ⟨hBlank, hRight⟩⟩
  · have hSome : ∃ c ∈ t, isBlank c = false := by
      by_contra hNone
      exact hBlank fun c hc => by_contra fun hNot => hNone ⟨c, hc, Bool.eq_false_iff.mpr hNot⟩
    obtain ⟨c, hMem, hc⟩ := hSome
    obtain ⟨front, rest, rfl⟩ := List.append_of_mem hMem
    have hSplit : left ++ ((front ++ c :: rest) ++ right) = (left ++ front) ++ c :: (rest ++ right) := by
      simp
    rw [hSplit, trim_append_cons _ hc, trim_append_cons _ hc, trimStart_append_of_blank hLeft,
      trimEnd_append_of_blank hRight]

/-! ## Cutting -/

theorem cutOn?_append_cons {d : Char} {head : Text} (h : d ∉ head) (rest : Text) :
    cutOn? d (head ++ d :: rest) = some (head, rest) := by
  have hHead : ∀ c ∈ head, (c == d) = false := by
    intro c hc
    refine beq_eq_false_iff_ne.mpr ?_
    rintro rfl
    exact h hc
  exact cutAt?_of_first hHead (beq_self_eq_true d) rest

theorem cutOn?_eq_none {d : Char} {t : Text} (h : d ∉ t) : cutOn? d t = none := by
  refine cutAt?_eq_none fun c hc => beq_eq_false_iff_ne.mpr ?_
  rintro rfl
  exact h hc

theorem cutOn?_cases (d : Char) (t : Text) :
    (d ∉ t ∧ cutOn? d t = none) ∨
      ∃ head rest, t = head ++ d :: rest ∧ d ∉ head ∧ cutOn? d t = some (head, rest) := by
  by_cases h : d ∈ t
  · obtain ⟨head, rest, rfl, hHead⟩ := List.eq_append_cons_of_mem h
    exact .inr ⟨head, rest, rfl, hHead, cutOn?_append_cons hHead rest⟩
  · exact .inl ⟨h, cutOn?_eq_none h⟩

theorem mem_of_cutAt? {p : Char → Bool} {t head rest : Text} {c : Char}
    (h : cutAt? p t = some (head, rest)) (hc : c ∈ rest) : c ∈ t := by
  unfold cutAt? at h
  split at h
  · cases h
  · rename_i d after hDrop
    cases h
    exact List.dropWhile_subset _ (hDrop ▸ List.mem_cons_of_mem d hc)

theorem cutAt?_eq_some_iff {p : Char → Bool} {t head rest : Text} : cutAt? p t = some (head, rest) ↔
    ∃ d, t = head ++ d :: rest ∧ p d = true ∧ ∀ c ∈ head, p c = false := by
  constructor
  · intro h
    unfold cutAt? at h
    split at h
    · cases h
    · rename_i d after hDrop
      cases h
      refine ⟨d, ?_, ?_, fun c hc => ?_⟩
      · rw [← hDrop, List.takeWhile_append_dropWhile]
      · have hHead := List.head?_dropWhile_not (fun c => !p c) t
        rw [hDrop] at hHead
        simpa using hHead
      · simpa using List.mem_takeWhile_imp hc
  · rintro ⟨d, rfl, hd, hHead⟩
    exact cutAt?_of_first hHead hd rest

theorem delimited?_eq_some_iff {t head rest : Text} : delimited? t = some (head, rest) ↔
    ∃ d, t = d :: (head ++ d :: rest) ∧ d ∉ head := by
  constructor
  · intro h
    cases t with
    | nil => cases h
    | cons d body =>
      obtain ⟨c, rfl, hc, hFree⟩ := cutAt?_eq_some_iff.mp h
      cases beq_iff_eq.mp hc
      refine ⟨d, rfl, fun hIn => ?_⟩
      exact absurd (hFree d hIn) (by simp)
  · rintro ⟨d, rfl, hFree⟩
    exact delimited?_of_not_mem hFree rest

/-! ## Numbers -/

theorem readDecimal?_eq_some_iff {t : Text} {n : Nat} :
    readDecimal? t = some n ↔ t ≠ [] ∧ (∀ c ∈ t, c.isDigit = true) ∧
      Digits.value 10 (t.map digitValue) = n := by
  have hValue : Digits.value 10 (t.map digitValue) =
      t.foldl (fun n c => 10 * n + digitValue c) 0 := by
    rw [Digits.value, List.foldl_map]
  rw [hValue, readDecimal?]
  split
  · rename_i hBad
    simp only [Bool.or_eq_true, List.isEmpty_iff, Bool.not_eq_true', List.all_eq_false] at hBad
    constructor
    · intro h
      cases h
    · rintro ⟨hNonempty, hDigits, _⟩
      rcases hBad with hNil | ⟨c, hc, hNot⟩
      · exact absurd hNil hNonempty
      · exact absurd (hDigits c hc) hNot
  · rename_i hGood
    simp only [Bool.or_eq_true, List.isEmpty_iff, Bool.not_eq_true', not_or,
      Bool.not_eq_false, List.all_eq_true] at hGood
    obtain ⟨hNonempty, hDigits⟩ := hGood
    rw [Option.some.injEq]
    exact ⟨fun h => ⟨hNonempty, hDigits, h⟩, fun h => h.2.2⟩

theorem readUnsigned?_eq_some_iff {limit n : Nat} {t : Text} :
    readUnsigned? limit t = some n ↔ IsNumeral n t ∧ n ≤ limit := by
  rw [readUnsigned?, Option.filter_eq_some_iff, readDecimal?_eq_some_iff, decide_eq_true_eq]
  refine and_congr_left fun _ => ?_
  constructor
  · intro h
    unfold dropPlus at h
    split at h
    · rename_i rest
      exact ⟨['+'], rest, .inr rfl, h.1, h.2.1, h.2.2, rfl⟩
    · exact ⟨[], t, .inl rfl, h.1, h.2.1, h.2.2, rfl⟩
  · rintro ⟨sign, digits, rfl | rfl, hNonempty, hDigits, hValue, rfl⟩
    · obtain ⟨c, rest, rfl⟩ := List.exists_cons_of_ne_nil hNonempty
      have hPlus : c ≠ '+' := by
        rintro rfl
        exact absurd (hDigits _ List.mem_cons_self) (by decide)
      have hDrop : dropPlus (c :: rest) = c :: rest := by
        unfold dropPlus
        split
        · rename_i hEq
          exact absurd (List.cons.inj hEq).1 hPlus
        · rfl
      rw [hDrop]
      exact ⟨hNonempty, hDigits, hValue⟩
    · exact ⟨hNonempty, hDigits, hValue⟩

end ServiceProbe.Text
