import ServiceProbe.Proofs.Database.Block
import ServiceProbe.Proofs.Text.Words

/-! # First words of lines

What a line of a database is depends on its first word alone. No keyword is short or begins like a
comment, so every line with a keyword is kept, and blanks around a line do not change its word. -/

namespace ServiceProbe.Database
set_option autoImplicit false

open Text (IsSurrounded isBlank)

variable {line padded word : Text}

theorem firstWord?_of_surrounded (h : IsSurrounded line padded) :
    firstWord? padded = firstWord? line := by
  obtain ⟨left, right, hLeft, hRight, rfl⟩ := h
  rw [firstWord?, Text.nextWord?_surround hLeft hRight, Option.map_map]
  rfl

theorem firstWord?_trim (line : Text) : firstWord? line.trim = firstWord? line :=
  (firstWord?_of_surrounded (Text.isSurrounded_trim line)).symm

theorem firstWord?_eq_some_iff : firstWord? line = some word ↔ ∃ left rest : Text,
    (∀ c ∈ left, isBlank c = true) ∧ line = left ++ (word ++ rest) ∧ Text.IsWord word ∧
      ∀ c ∈ rest.head?, isBlank c = true := by
  rw [firstWord?, Option.map_eq_some_iff]
  constructor
  · rintro ⟨⟨_, rest⟩, hFound, rfl⟩
    obtain ⟨left, hParts⟩ := Text.nextWord?_eq_some_iff.mp hFound
    exact ⟨left, rest, hParts⟩
  · rintro ⟨left, rest, hParts⟩
    exact ⟨(word, rest), Text.nextWord?_eq_some_iff.mpr ⟨left, hParts⟩, rfl⟩

theorem keyword_of_trim (line : Text) :
    (Probe.keywordAndArgument line.trim).1 = (firstWord? line).getD [] := by
  have hKeyword : (Probe.keywordAndArgument line.trim).1 = (Text.word line.trim).1 := by
    have hParts := Text.word_append line.trim
    unfold Probe.keywordAndArgument Text.cutAt?
    cases hRest : line.trim.dropWhile fun c => !isBlank c with
    | nil =>
      rw [Text.word, hRest, List.append_nil] at hParts
      exact hParts.symm
    | cons c rest => rfl
  rw [hKeyword, ← firstWord?_trim, firstWord?, Text.nextWord?, Text.trimStart_trim]
  cases line.trim <;> rfl

theorem length_le_utf8Length (t : Text) : t.length ≤ Text.utf8Length t := by
  have hFrom (n : Nat) : n + t.length ≤ t.foldl (fun n c => n + c.utf8Size) n := by
    induction t generalizing n with
    | nil => exact Nat.le_refl n
    | cons c t ih =>
      have hPos := c.utf8Size_pos
      have hRest := ih (n + c.utf8Size)
      rw [List.foldl_cons, List.length_cons]
      omega
  simpa [Text.utf8Length] using hFrom 0

theorem isKept_eq (line : Text) : isKept line = (firstWord? line).any keywords.contains := by
  cases hWord : firstWord? line with
  | none => simp [isKept, hWord]
  | some word =>
    by_cases hMem : word ∈ keywords
    · have hShape : ∀ w ∈ keywords, 2 ≤ w.length ∧ w.head? ≠ some '#' := by decide
      obtain ⟨hLength, hMark⟩ := hShape word hMem
      obtain ⟨left, rest, hLeft, rfl, hSolid, _⟩ := firstWord?_eq_some_iff.mp hWord
      have hLong : 2 ≤ Text.utf8Length (left ++ (word ++ rest)) := by
        have hBytes := length_le_utf8Length (left ++ (word ++ rest))
        rw [List.length_append, List.length_append] at hBytes
        omega
      have hHead : (left ++ (word ++ rest)).head? ≠ some '#' := by
        obtain ⟨c, others, rfl⟩ := List.exists_cons_of_ne_nil hSolid.ne_nil
        cases left with
        | nil => exact hMark
        | cons d left =>
          rintro ⟨⟩
          exact absurd (hLeft '#' List.mem_cons_self) (by decide)
      rw [isKept, hWord, decide_eq_true hLong, bne_iff_ne.mpr hHead]
      rfl
    · simp [isKept, hWord, hMem]

theorem isKept_of_isExclude (h : isExclude line = true) : isKept line = true := by
  rw [isKept_eq, beq_iff_eq.mp h]
  rfl

theorem isKept_of_isHeader (h : isHeader line = true) : isKept line = true := by
  rw [isKept_eq, beq_iff_eq.mp h]
  rfl

theorem isExclude_of_isHeader (h : isHeader line = true) : isExclude line = false := by
  rw [isExclude, beq_iff_eq.mp h]
  rfl

end ServiceProbe.Database
