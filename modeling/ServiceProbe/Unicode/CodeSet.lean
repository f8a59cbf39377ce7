import ServiceProbe.Text.Number

/-! # Sets of characters by their code points

A set is a list of ranges, in ascending order and with gaps between them once it is in its normal
form. Surrogates are no characters and belong to no set. Tables of a standard are written as runs:
the length of a gap and the length of the range after it, in turn. -/

namespace ServiceProbe.Unicode
set_option autoImplicit false

abbrev CodeSet := List (Nat × Nat)

namespace CodeSet

def contains (s : CodeSet) (n : Nat) : Bool := s.any fun r => r.1 ≤ n && n ≤ r.2

/-- Joins the ranges of an ascending list that touch, with the range `low` to `high` in front. -/
def joinFrom (low high : Nat) : List (Nat × Nat) → CodeSet
  | [] => [(low, high)]
  | (a, b) :: rest =>
    if a ≤ high + 1 then joinFrom low (max high b) rest else (low, high) :: joinFrom a b rest

def normal (rs : List (Nat × Nat)) : CodeSet :=
  match rs.mergeSort (fun r s => r.1 ≤ s.1) with
  | [] => []
  | (a, b) :: rest => joinFrom a b rest

def union (s t : CodeSet) : CodeSet := normal (s ++ t)

/-- The gaps of an ascending list from `low` up to `high`. -/
def gapsFrom (low high : Nat) : CodeSet → CodeSet
  | [] => if low ≤ high then [(low, high)] else []
  | (a, b) :: rest =>
    if low < a then (low, min (a - 1) high) :: gapsFrom (b + 1) high rest
    else gapsFrom (max low (b + 1)) high rest

def lastCode : Nat := 0x10FFFF

def surrogates : CodeSet := [(0xD800, 0xDFFF)]

def compl (s : CodeSet) : CodeSet := gapsFrom 0 lastCode (union s surrogates)

def all : CodeSet := compl []

def inter (s t : CodeSet) : CodeSet := compl (union (compl s) (compl t))

def diff (s t : CodeSet) : CodeSet := inter s (compl t)

def symmDiff (s t : CodeSet) : CodeSet := diff (union s t) (inter s t)

/-- Reads gaps and lengths in turn from the place `next` on. -/
def ofRunsFrom (next : Nat) : List Nat → CodeSet
  | gap :: length :: rest =>
    (next + gap, next + gap + length - 1) :: ofRunsFrom (next + gap + length) rest
  | _ => []

def readNumbers (line : String) : List Nat :=
  (line.toList.splitOn ' ').filterMap Text.readDecimal?

def ofRuns (table : List String) : CodeSet := ofRunsFrom 0 (table.flatMap readNumbers)

end CodeSet

/-- A set for many questions: its ranges in ascending order, to be halved until one is left. -/
structure CodeTable where
  ranges : Array (Nat × Nat)
  deriving DecidableEq

namespace CodeTable

def ofSet (s : CodeSet) : CodeTable := ⟨s.toArray⟩

/-- Whether one of the ranges from the place `low` up to the place `high` holds a code. -/
def holds (t : CodeTable) (n : Nat) : Nat → Nat → Nat → Bool
  | 0, _, _ => false
  | fuel + 1, low, high =>
    if low < high then
      let middle := (low + high) / 2
      match t.ranges[middle]? with
      | none => false
      | some (first, last) =>
        if n < first then t.holds n fuel low middle
        else if last < n then t.holds n fuel (middle + 1) high
        else true
    else false

def contains (t : CodeTable) (n : Nat) : Bool := t.holds n (t.ranges.size + 1) 0 t.ranges.size

end CodeTable
end ServiceProbe.Unicode
