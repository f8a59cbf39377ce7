import Mathlib.Data.List.TakeWhile
import ServiceProbe.Database

/-! # Blocks of a database

The blocks of a database are read off its kept lines all at once: every header line begins a block
that ends before the next one, and exclusions belong to no block. A line at the end begins a block
or extends the last one. -/

namespace ServiceProbe.Database
set_option autoImplicit false

def firstWord? (line : Text) : Option Text := (Text.nextWord? line).map (·.1)

/-- A line of two bytes or more that is no comment and begins with a keyword. -/
def isKept (line : Text) : Bool :=
  decide (2 ≤ Text.utf8Length line) && line.head? != some '#' &&
    (firstWord? line).any keywords.contains

def isExclude (line : Text) : Bool := firstWord? line == some "Exclude".toList

def isHeader (line : Text) : Bool := firstWord? line == some "Probe".toList

def keptLines (t : Text) : List Text :=
  (Text.lines (Text.replace backquoteMark ['\x60'] t)).filter isKept

def bodyOf (lines : List Text) : List Text := lines.takeWhile fun line => !isHeader line

/-- Every header line with the lines after it up to the next header line. -/
def blocksOf : List Text → List (List Text)
  | [] => []
  | line :: rest => if isHeader line then (line :: bodyOf rest) :: blocksOf rest else blocksOf rest

/-- The blocks of kept lines, exclusions left out. -/
def blocks (kept : List Text) : List (List Text) := blocksOf (kept.filter fun line => !isExclude line)

/-- What follows the first word of a line. -/
def afterWord (line : Text) : Text :=
  (line.dropWhile Text.isBlank).dropWhile fun c => !Text.isBlank c

def exclusions (kept : List Text) : List Text := (kept.filter isExclude).map afterWord

theorem excludeArgument_eq (line : Text) : Reading.excludeArgument line = afterWord line := by
  unfold Reading.excludeArgument Text.nextWord? Text.trimStart afterWord
  cases line.dropWhile Text.isBlank <;> rfl

theorem keyword?_of_kept {line : Text} (h : isKept line = true) :
    keyword? line = firstWord? line := by
  simp only [isKept, Bool.and_eq_true, decide_eq_true_eq, bne_iff_ne, ne_eq] at h
  obtain ⟨⟨hLength, hHead⟩, hWord⟩ := h
  have hCounts : ¬ (Text.utf8Length line < 2 || line.head? = some '#') = true := by
    simp only [Bool.or_eq_true, decide_eq_true_eq, not_or, Nat.not_lt]
    exact ⟨hLength, hHead⟩
  unfold keyword?
  rw [if_neg hCounts]
  change (firstWord? line).filter keywords.contains = firstWord? line
  cases hFirst : firstWord? line with
  | none => rfl
  | some word =>
    rw [hFirst, Option.any_some] at hWord
    rw [Option.filter_some_pos hWord]

theorem keyword?_of_not_kept {line : Text} (h : isKept line = false) : keyword? line = none := by
  unfold keyword?
  split
  · rfl
  · rename_i hLong
    simp only [Bool.or_eq_true, decide_eq_true_eq, not_or, Nat.not_lt] at hLong
    have hWord : (firstWord? line).any keywords.contains = false := by
      simpa [isKept, hLong] using h
    change (firstWord? line).filter keywords.contains = none
    cases hFirst : firstWord? line with
    | none => rfl
    | some word =>
      rw [hFirst, Option.any_some] at hWord
      exact Option.filter_some_neg hWord

theorem blocksOf_eq_nil_iff {lines : List Text} :
    blocksOf lines = [] ↔ ∀ line ∈ lines, isHeader line = false := by
  induction lines with
  | nil => simp [blocksOf]
  | cons line rest ih =>
    cases h : isHeader line <;> simp [blocksOf, h, ih]

theorem header_of_mem_blocksOf {lines block : List Text} (h : block ∈ blocksOf lines) :
    ∃ header body, block = header :: body ∧ isHeader header = true ∧
      ∀ line ∈ body, isHeader line = false := by
  induction lines with
  | nil => cases h
  | cons first rest ih =>
    rw [blocksOf] at h
    split at h
    · rename_i hFirst
      rcases List.mem_cons.mp h with rfl | hRest
      · refine ⟨first, bodyOf rest, rfl, hFirst, fun line hLine => ?_⟩
        simpa only [Bool.not_eq_true'] using List.mem_takeWhile_imp hLine
      · exact ih hRest
    · exact ih h

/-- From the first header line on, every line is in one block, and the blocks keep the order. -/
theorem flatten_blocksOf (lines : List Text) :
    (blocksOf lines).flatten = lines.dropWhile fun line => !isHeader line := by
  induction lines with
  | nil => rfl
  | cons first rest ih =>
    rw [blocksOf]
    cases hFirst : isHeader first with
    | true =>
      simp only [if_true, List.flatten_cons, ih, bodyOf, List.cons_append,
        List.takeWhile_append_dropWhile, hFirst, Bool.not_true, Bool.false_eq_true,
        not_false_eq_true, List.dropWhile_cons_of_neg]
    | false =>
      simp only [Bool.false_eq_true, if_false, ih, hFirst, Bool.not_false, List.dropWhile_cons_of_pos]

example : blocks (keptLines "rarity 1\nProbe a\n#\nExclude 1\nports 2\nother\nProbe b".toList) =
    [["Probe a".toList, "ports 2".toList], ["Probe b".toList]] := by decide

theorem bodyOf_eq_self_iff {lines : List Text} : bodyOf lines = lines ↔ blocksOf lines = [] := by
  rw [bodyOf, List.takeWhile_eq_self_iff, blocksOf_eq_nil_iff]
  simp only [Bool.not_eq_true']

theorem bodyOf_concat_of_nil {lines : List Text} (h : blocksOf lines = []) (line : Text) :
    bodyOf (lines ++ [line]) = lines ++ bodyOf [line] :=
  List.takeWhile_append_of_pos fun next hNext => by
    simp only [blocksOf_eq_nil_iff.mp h next hNext, Bool.not_false]

theorem bodyOf_concat_of_ne_nil {lines : List Text} (h : blocksOf lines ≠ []) (line : Text) :
    bodyOf (lines ++ [line]) = bodyOf lines := by
  unfold bodyOf
  rw [List.takeWhile_append, if_neg]
  intro hAll
  exact h (bodyOf_eq_self_iff.mp ((List.takeWhile_prefix _).eq_of_length hAll))

theorem blocksOf_concat_header (lines : List Text) {line : Text} (h : isHeader line = true) :
    blocksOf (lines ++ [line]) = blocksOf lines ++ [[line]] := by
  have hAlone : bodyOf [line] = [] := by simp [bodyOf, h]
  induction lines with
  | nil => simp [blocksOf, h, bodyOf]
  | cons first rest ih =>
    have hBody : bodyOf (rest ++ [line]) = bodyOf rest := by
      by_cases hRest : blocksOf rest = []
      · rw [bodyOf_concat_of_nil hRest, hAlone, List.append_nil, bodyOf_eq_self_iff.mpr hRest]
      · exact bodyOf_concat_of_ne_nil hRest line
    rw [List.cons_append, blocksOf, blocksOf, hBody, ih]
    split <;> rfl

theorem blocksOf_concat_body (lines : List Text) {line : Text} (h : isHeader line = false) :
    blocksOf (lines ++ [line]) =
      (blocksOf lines).dropLast ++ ((blocksOf lines).getLast?.map (· ++ [line])).toList := by
  induction lines with
  | nil => simp [blocksOf, h]
  | cons first rest ih =>
    rw [List.cons_append, blocksOf, blocksOf, ih]
    cases hFirst : isHeader first with
    | false => simp only [Bool.false_eq_true, if_false]
    | true =>
      have hAlone : bodyOf [line] = [line] := by simp [bodyOf, h]
      simp only [if_true]
      cases hRest : blocksOf rest with
      | nil =>
        rw [bodyOf_concat_of_nil hRest, hAlone, bodyOf_eq_self_iff.mpr hRest]
        rfl
      | cons block others =>
        rw [bodyOf_concat_of_ne_nil (hRest ▸ List.cons_ne_nil _ _)]
        rfl

end ServiceProbe.Database
