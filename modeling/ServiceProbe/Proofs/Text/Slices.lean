import ServiceProbe.Proofs.Text.Accepted
import ServiceProbe.Proofs.Text.Decoding

/-! # Slices of texts

A text is cut at offsets that count its bytes. An offset beyond the end or inside a character cannot
be used, and the whole reading fails there. An offset that was found by searching, moved by the width
of what was found, always lies between two characters. -/

namespace ServiceProbe.Text
set_option autoImplicit false

open String (utf8EncodeChar)

/-- A character begins at the offset, or the bytes end there. -/
def isBoundary (bytes : List UInt8) (offset : Nat) : Bool :=
  match bytes[offset]? with
  | some b => !isContinuation b
  | none => offset == bytes.length

/-- An access that cannot be made. -/
structure BadSlice where
  text : Text
  start : Nat
  stop : Nat
  deriving DecidableEq

/-- The bytes between two offsets, which must come in this order and have a character begin at each, or
the bytes end there. -/
def slice (t : Text) (start stop : Nat) : Except BadSlice Text :=
  if start ≤ stop && isBoundary t.utf8 start && isBoundary t.utf8 stop then
    .ok (decodeLossy ((t.utf8.take stop).drop start))
  else .error ⟨t, start, stop⟩

def sliceTo (t : Text) (stop : Nat) : Except BadSlice Text := slice t 0 stop

def sliceFrom (t : Text) (start : Nat) : Except BadSlice Text := slice t start t.utf8.length

/-- The offset of the first character with `p`. -/
def find? (p : Char → Bool) (t : Text) : Option Nat :=
  (cutAt? p t).map fun (head, _) => head.utf8.length

/-- The offset of the first occurrence of `mark`. -/
def findMark? (mark t : Text) : Option Nat :=
  (cutMark? mark t).map fun (head, _) => head.utf8.length

/-- A reading that may find nothing, and may fail. -/
abbrev Finding := OptionT (Except BadSlice)

def found {α : Type} (o : Option α) : Finding α := OptionT.mk (.ok o)

/-- The text up to the next occurrence of its first character, and the text after that. -/
def delimitedAt (t : Text) : Finding (Text × Text) :=
  match t with
  | [] => found none
  | delimiter :: _ => do
    let body ← sliceFrom t delimiter.utf8Size
    let stop ← found (find? (· == delimiter) body)
    let inside ← sliceTo body stop
    let after ← sliceFrom body (stop + delimiter.utf8Size)
    pure (inside, after)

variable {t u head rest : Text} {c : Char} {p : Char → Bool}

/-! ## Lengths in bytes -/

theorem utf8_append (t u : Text) : utf8 (t ++ u) = utf8 t ++ utf8 u := List.flatMap_append

theorem length_utf8_append (t u : Text) : (utf8 (t ++ u)).length = t.utf8.length + u.utf8.length := by
  rw [utf8_append, List.length_append]

theorem length_utf8_cons (c : Char) (t : Text) :
    (utf8 (c :: t)).length = c.utf8Size + t.utf8.length := by
  rw [utf8_cons, List.length_append, String.length_utf8EncodeChar]

theorem length_utf8_nil : (utf8 []).length = 0 := rfl

theorem length_le_length_utf8 (t : Text) : t.length ≤ t.utf8.length := by
  induction t with
  | nil => exact Nat.le_refl 0
  | cons c t ih =>
    have hWidth := c.utf8Size_pos
    rw [length_utf8_cons, List.length_cons]
    omega

theorem length_utf8_lt (h : t <:+ u) (hLength : t.length < u.length) :
    t.utf8.length < u.utf8.length := by
  obtain ⟨front, rfl⟩ := h
  have hFront := length_le_length_utf8 front
  rw [List.length_append] at hLength
  rw [length_utf8_append]
  omega

/-! ## Boundaries -/

theorem exists_head_utf8EncodeChar (c : Char) :
    ∃ a rest, utf8EncodeChar c = a :: rest ∧ isContinuation a = false := by
  obtain ⟨a, rest, hBytes, hWidth, _⟩ :=
    (encodes_utf8EncodeChar c).width ((toNat_lt_or c).imp_right fun h => h.1)
  refine ⟨a, rest, hBytes, Bool.eq_false_iff.mpr fun hContinues => ?_⟩
  have hRange := isContinuation_iff.mp hContinues
  have hFirst := utf8Width?_eq_some_iff.mp hWidth
  omega

theorem isBoundary_append (t u : Text) : isBoundary (utf8 (t ++ u)) t.utf8.length = true := by
  rw [isBoundary, utf8_append, List.getElem?_append_right (Nat.le_refl _), Nat.sub_self]
  cases u with
  | nil => simp [utf8]
  | cons c u =>
    obtain ⟨a, rest, hBytes, hFirst⟩ := exists_head_utf8EncodeChar c
    have hText : utf8 (c :: u) = a :: (rest ++ utf8 u) := by
      rw [utf8_cons, hBytes, List.cons_append]
    simp [hText, hFirst]

/-! ## Slices between known parts -/

theorem slice_append (t part u : Text) :
    slice (t ++ (part ++ u)) t.utf8.length (t.utf8.length + part.utf8.length) = .ok part := by
  have hStart := isBoundary_append t (part ++ u)
  have hStop := isBoundary_append (t ++ part) u
  rw [List.append_assoc, length_utf8_append] at hStop
  have hBytes : ((utf8 (t ++ (part ++ u))).take (t.utf8.length + part.utf8.length)).drop
      t.utf8.length = utf8 part := by
    rw [utf8_append, utf8_append, List.take_length_add_append, List.take_left, List.drop_left]
  rw [slice, hStart, hStop, hBytes, decodeLossy_utf8]
  simp

theorem sliceTo_append (t u : Text) : sliceTo (t ++ u) t.utf8.length = .ok t := by
  have hSlice := slice_append [] t u
  rwa [length_utf8_nil, Nat.zero_add] at hSlice

theorem sliceFrom_append (t u : Text) : sliceFrom (t ++ u) t.utf8.length = .ok u := by
  have hSlice := slice_append t u []
  rwa [List.append_nil, ← length_utf8_append] at hSlice

theorem sliceFrom_cons (c : Char) (t : Text) : sliceFrom (c :: t) c.utf8Size = .ok t := by
  have hSlice := sliceFrom_append [c] t
  rwa [length_utf8_cons, length_utf8_nil, Nat.add_zero] at hSlice

theorem sliceFrom_append_cons (t : Text) (c : Char) (u : Text) :
    sliceFrom (t ++ c :: u) (t.utf8.length + c.utf8Size) = .ok u := by
  have hSlice := sliceFrom_append (t ++ [c]) u
  rwa [length_utf8_append, length_utf8_cons, length_utf8_nil, Nat.add_zero, List.append_assoc,
    List.singleton_append] at hSlice

/-- Half a character is no slice. -/
example : slice ['é'] 0 1 = .error ⟨['é'], 0, 1⟩ := by decide

/-! ## Findings -/

theorem found_none_bind {α β : Type} (f : α → Finding β) : (found none >>= f) = found none := rfl

theorem found_some_bind {α β : Type} (a : α) (f : α → Finding β) : (found (some a) >>= f) = f a := rfl

theorem slice_bind {α : Type} {access : Except BadSlice Text} {part : Text} (h : access = .ok part)
    (f : Text → Finding α) : ((liftM access : Finding Text) >>= f) = f part := by
  subst h
  rfl

theorem run_found {α : Type} (o : Option α) : (found o).run = .ok o := rfl

theorem ok_bind {α β : Type} (a : α) (f : α → Except BadSlice β) : (Except.ok a >>= f) = f a := rfl

theorem pure_eq_found {α : Type} (a : α) : (pure a : Finding α) = found (some a) := rfl

theorem find?_of_cutAt? (h : cutAt? p t = some (head, rest)) : find? p t = some head.utf8.length := by
  rw [find?, h]
  rfl

theorem find?_eq_none (h : cutAt? p t = none) : find? p t = none := by
  rw [find?, h]
  rfl

/-- Where there is no such character, the search is taken to end with the text. -/
theorem getD_find? (p : Char → Bool) (t : Text) :
    (find? p t).getD t.utf8.length = (utf8 (t.takeWhile fun c => !p c)).length := by
  unfold find? cutAt?
  split
  · rename_i hDrop
    have hAll : t.takeWhile (fun c => !p c) = t := by
      have hSplit := @List.takeWhile_append_dropWhile _ (fun c => !p c) t
      rwa [hDrop, List.append_nil] at hSplit
    rw [hAll]
    rfl
  · rfl

theorem delimitedAt_eq (t : Text) : delimitedAt t = found (delimited? t) := by
  cases t with
  | nil => rfl
  | cons d body =>
    simp only [delimitedAt, slice_bind (sliceFrom_cons d body)]
    rcases cutOn?_cases d body with ⟨_, hNone⟩ | ⟨inside, after, rfl, _, hCut⟩
    · rw [find?_eq_none hNone, delimited?, hNone, found_none_bind]
    · rw [find?_of_cutAt? hCut, delimited?, hCut, found_some_bind, slice_bind (sliceTo_append inside _),
        slice_bind (sliceFrom_append_cons inside d after), pure_eq_found]

/-! ## Loops -/

section
variable {σ ε β : Type} {size : σ → Nat} {value : σ → β} {step : σ → Except ε (Option σ)}

/-- A step that goes on makes the state smaller. -/
def Shrinks (size : σ → Nat) (step : σ → Except ε (Option σ)) : Prop :=
  ∀ s next, step s = .ok (some next) → size next < size s

/-- Whatever the state, the step does not fail, and one that goes on makes the state smaller and leaves
its value as it is. -/
def Proceeds (size : σ → Nat) (value : σ → β) (step : σ → Except ε (Option σ)) : Prop :=
  ∀ s, ∃ result, step s = .ok result ∧ ∀ next ∈ result, size next < size s ∧ value next = value s

/-- Repeats a step until it goes on no further. -/
def untilDone (size : σ → Nat) (step : σ → Except ε (Option σ)) (shrinks : Shrinks size step) (s : σ) :
    Except ε σ :=
  match _hStep : step s with
  | .error e => .error e
  | .ok none => .ok s
  | .ok (some next) => untilDone size step shrinks next
termination_by size s
decreasing_by exact shrinks s next _hStep

theorem Proceeds.shrinks (h : Proceeds size value step) : Shrinks size step := by
  intro s next hNext
  obtain ⟨result, hResult, hLess⟩ := h s
  cases hResult.symm.trans hNext
  exact (hLess next rfl).1

/-- The loop ends, and with the value it began with. -/
theorem Proceeds.exists_untilDone (h : Proceeds size value step) (s : σ) :
    ∃ last, untilDone size step h.shrinks s = .ok last ∧ step last = .ok none ∧
      value last = value s := by
  induction hSize : size s using Nat.strongRecOn generalizing s with
  | ind n ih =>
    subst hSize
    obtain ⟨result, hResult, hLess⟩ := h s
    rw [untilDone]
    split
    · rename_i e hError
      cases hError.symm.trans hResult
    · rename_i hEnd
      exact ⟨s, rfl, hEnd, rfl⟩
    · rename_i next hNext
      cases hNext.symm.trans hResult
      obtain ⟨hSmaller, hValue⟩ := hLess next rfl
      obtain ⟨last, hLast, hDone, hSame⟩ := ih _ hSmaller next rfl
      exact ⟨last, hLast, hDone, hSame.trans hValue⟩

end

end ServiceProbe.Text
