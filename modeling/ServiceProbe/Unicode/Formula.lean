import ServiceProbe.Unicode.CodeSet

/-! # How sets of characters are written

A set is written as runs, or made from sets that have been written before. Formulas are small, and
their sets are built only when one asks for them. -/

namespace ServiceProbe.Unicode
set_option autoImplicit false

inductive Formula where
  /-- Gaps and lengths in turn. -/
  | runs (table : List String)
  /-- Single characters at equal distances. -/
  | steps (first distance count : Nat)
  | union (s t : Formula)
  | diff (s t : Formula)
  | compl (s : Formula)

namespace Formula

instance : Union Formula := ⟨union⟩

instance : SDiff Formula := ⟨diff⟩

def toSet : Formula → CodeSet
  | runs table => .ofRuns table
  | steps first distance count =>
    (List.range count).map fun i => (first + distance * i, first + distance * i)
  | union s t => s.toSet.union t.toSet
  | diff s t => s.toSet.diff t.toSet
  | compl s => s.toSet.compl

end Formula
end ServiceProbe.Unicode
