import ServiceProbe.Proofs.Database.FirstWord
import ServiceProbe.Proofs.Database.Refinement

/-! # Blanks around lines

Every reader of a line cuts off the blanks around it at a place of its own: the line of a header, that
of a directive and the expression of an exclusion. So what a database comes to depends on its kept
lines without the blanks around them alone. The faults that are only reported quote the whole
line. -/

namespace ServiceProbe
set_option autoImplicit false

namespace Probe

theorem toOption_bind {ε α β : Type} (x : Except ε α) (f : α → Except ε β) :
    (x >>= f).toOption = x.toOption.bind fun a => (f a).toOption := by
  cases x <;> rfl

theorem toOption_orFault {α : Type} (fault : ProbeFault) (found : Option α) :
    (orFault fault found).toOption = found := by
  cases found <;> rfl

theorem afterKeyword?_trim (line : Text) : afterKeyword? line.trim = afterKeyword? line := by
  rw [afterKeyword?, afterKeyword?, Text.trim_trim]

/-- The blanks around a header line are quoted in its faults, and show nowhere else. -/
theorem toOption_ofHeader_trim (line : Text) :
    (ofHeader line.trim).toOption = (ofHeader line).toOption := by
  simp only [ofHeader, toOption_bind, toOption_orFault, afterKeyword?_trim]

theorem readDirective_trim (line : Text) : readDirective line.trim = readDirective line := by
  unfold readDirective
  rw [Text.trim_trim]

theorem apply_trim (p : Probe) (line : Text) : p.apply line.trim = p.apply line := by
  rw [apply, apply, readDirective_trim]

theorem applyAll_trim (p : Probe) (lines : List Text) :
    p.applyAll (lines.map Text.trim) = p.applyAll lines := by
  induction lines generalizing p with
  | nil => rfl
  | cons line lines ih =>
    rw [List.map_cons, applyAll, applyAll, apply_trim]
    simp only [ih]

end Probe

theorem PortExpression.read_trim (expression : Text) : read expression.trim = read expression := by
  unfold read
  rw [Text.trim_trim]

theorem Registry.addExclude_trim (r : Registry) (expression : Text) :
    r.addExclude expression.trim = r.addExclude expression := by
  have hError : excludeError expression.trim = excludeError expression := by
    funext fault
    rw [excludeError, excludeError, Text.trim_trim]
  rw [addExclude, addExclude, hError, PortSet.load, PortSet.load, PortExpression.read_trim]

namespace Database

open Registry (attempt perform callsBefore)

theorem compiled?_cons (header : Text) (body : List Text) : compiled? (header :: body) =
    (Probe.ofHeader header).toOption.map fun p => (p.applyAll body).1 := by
  rw [compiled?, Probe.compile]
  cases Probe.ofHeader header <;> rfl

theorem compiled?_trim (block : List Text) : compiled? (block.map Text.trim) = compiled? block := by
  cases block with
  | nil => rfl
  | cons header body =>
    rw [List.map_cons, compiled?_cons, compiled?_cons, Probe.toOption_ofHeader_trim]
    simp only [Probe.applyAll_trim]

/-! ## Blocks -/

theorem isHeader_trim (line : Text) : isHeader line.trim = isHeader line := by
  rw [isHeader, isHeader, firstWord?_trim]

theorem isExclude_trim (line : Text) : isExclude line.trim = isExclude line := by
  rw [isExclude, isExclude, firstWord?_trim]

theorem isKept_trim (line : Text) : isKept line.trim = isKept line := by
  rw [isKept_eq, isKept_eq, firstWord?_trim]

theorem bodyOf_trim (lines : List Text) :
    bodyOf (lines.map Text.trim) = (bodyOf lines).map Text.trim := by
  rw [bodyOf, bodyOf, List.takeWhile_map]
  simp only [Function.comp_def, isHeader_trim]

theorem blocksOf_trim (lines : List Text) :
    blocksOf (lines.map Text.trim) = (blocksOf lines).map (List.map Text.trim) := by
  induction lines with
  | nil => rfl
  | cons line rest ih =>
    rw [List.map_cons, blocksOf, blocksOf, isHeader_trim, bodyOf_trim, ih]
    split <;> rfl

theorem blocks_trim (kept : List Text) :
    blocks (kept.map Text.trim) = (blocks kept).map (List.map Text.trim) := by
  rw [blocks, blocks, ← blocksOf_trim, List.filter_map]
  simp only [Function.comp_def, isExclude_trim]

theorem openBlock?_trim (kept : List Text) :
    openBlock? (kept.map Text.trim) = (openBlock? kept).map (List.map Text.trim) := by
  rw [openBlock?, openBlock?, blocks_trim, List.getLast?_map]

theorem ending_trim (block : Option (List Text)) :
    ending (block.map (List.map Text.trim)) = ending block := by
  cases block with
  | none => rfl
  | some lines =>
    rw [Option.map_some, ending, ending, Option.bind_some, Option.bind_some, compiled?_trim]

/-! ## Exclusions -/

theorem trim_afterWord_trim (line : Text) : (afterWord line.trim).trim = (afterWord line).trim := by
  obtain ⟨left, right, hLeft, hRight, hLine⟩ := Text.isSurrounded_trim line
  have hWord := Text.nextWord?_surround hLeft hRight line.trim
  rw [← hLine] at hWord
  rw [← excludeArgument_eq, ← excludeArgument_eq, Reading.excludeArgument, Reading.excludeArgument,
    hWord]
  cases Text.nextWord? line.trim with
  | none => rfl
  | some found =>
    obtain ⟨word, rest⟩ := found
    have hAround : Text.IsSurrounded rest (rest ++ right) := ⟨[], right, by simp, hRight, rfl⟩
    exact hAround.trim_eq.symm

/-- A call with the expression of an exclusion without the blanks around it. -/
def tidy : Registry.Call → Registry.Call
  | .register p => .register p
  | .exclude expression => .exclude expression.trim

theorem attempt_tidy (r : Registry) (c : Registry.Call) : attempt r (tidy c) = attempt r c := by
  cases c with
  | register p => rfl
  | exclude expression => simp only [attempt, tidy, Registry.call, Registry.addExclude_trim]

theorem perform_map_tidy (calls : List Registry.Call) :
    perform (calls.map tidy) = perform calls := by
  rw [perform, perform, List.foldlM_map]
  simp only [attempt_tidy]

theorem callFor_trim (block : Option (List Text)) (line : Text) :
    (callFor (block.map (List.map Text.trim)) line.trim).map tidy =
      (callFor block line).map tidy := by
  rw [callFor, callFor, isExclude_trim, isHeader_trim, ending_trim]
  split
  · rw [Option.map_some, Option.map_some, tidy, tidy, trim_afterWord_trim]
  · rfl

theorem callAt_trim (kept : List Text) (place : Nat) :
    (callAt (kept.map Text.trim) place).map tidy = (callAt kept place).map tidy := by
  rw [callAt, callAt, ← List.map_take, openBlock?_trim, List.getElem?_map]
  cases kept[place]? with
  | none =>
    rw [Option.map_none]
    exact congrArg (Option.map tidy) (ending_trim _)
  | some line => exact callFor_trim _ line

theorem map_tidy_callsBefore (kept : List Text) (place : Nat) :
    (callsBefore (callAt (kept.map Text.trim)) place).map tidy =
      (callsBefore (callAt kept) place).map tidy := by
  rw [callsBefore, callsBefore, List.map_filterMap, List.map_filterMap]
  simp only [callAt_trim]

/-- What a database comes to is told by its kept lines without the blanks around them. -/
theorem parse_eq_of_trimmed {t u : Text}
    (h : (keptLines t).map Text.trim = (keptLines u).map Text.trim) :
    Registry.parse t = Registry.parse u := by
  have hParse (t : Text) : Registry.parse t = perform ((callsBefore
      (callAt ((keptLines t).map Text.trim)) (((keptLines t).map Text.trim).length + 1)).map tidy) := by
    rw [parse_eq_perform, map_tidy_callsBefore, perform_map_tidy, List.length_map]
  rw [hParse t, hParse u, h]

end Database
end ServiceProbe
