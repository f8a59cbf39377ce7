import ServiceProbe.Port.Range

/-! # Sets of ports

A set of ports between 1 and 65535, kept as the binary digits of one number, with a mark that
makes it hold every port. The digits stay as they are when the mark is set, so two sets are equal
when both their digits and their marks agree. -/

namespace ServiceProbe
set_option autoImplicit false

structure PortSet where
  digits : Nat
  filled : Bool
  digits_are_ports : ∀ i, digits.testBit i = true → 0 < i ∧ i < 65536
  deriving DecidableEq

namespace PortSet

def empty : PortSet where
  digits := 0
  filled := false
  digits_are_ports := by simp

def contains (s : PortSet) (p : Port) : Bool :=
  p != 0 && (s.filled || s.digits.testBit p.toNat)

def insertRange (s : PortSet) (r : PortRange) : PortSet where
  digits := s.digits ||| r.mask
  filled := s.filled
  digits_are_ports := by
    intro i h
    rw [Nat.testBit_or, Bool.or_eq_true, PortRange.testBit_mask, decide_eq_true_eq] at h
    rcases h with h | ⟨h₁, h₂⟩
    · exact s.digits_are_ports i h
    · have hFirst := r.first_pos
      have hLast := r.last.toNat_lt
      omega

/-- Adds one port. Port zero is in no set. -/
def insert (s : PortSet) (p : Port) : PortSet :=
  if h : p = 0 then s else s.insertRange ⟨p, p, h, UInt16.le_refl p⟩

def fill (s : PortSet) : PortSet := { s with filled := true }

def union (s t : PortSet) : PortSet where
  digits := s.digits ||| t.digits
  filled := s.filled || t.filled
  digits_are_ports := by
    intro i h
    rw [Nat.testBit_or, Bool.or_eq_true] at h
    exact h.elim (s.digits_are_ports i) (t.digits_are_ports i)

def isEmpty (s : PortSet) : Bool := !s.filled && s.digits == 0

/-- The ports of the set in ascending order. -/
def toList (s : PortSet) : List Port :=
  ((List.range' 1 65535).map UInt16.ofNat).filter s.contains

/-- The number of digits that are set, or of all ports. -/
def size (s : PortSet) : Nat :=
  if s.filled then 65535 else (List.range 65536).countP s.digits.testBit

/-- Adds to a list of maximal runs, the latest in front, a port above all of theirs. -/
def extendRuns (runs : List (Port × Port)) (p : Port) : List (Port × Port) :=
  match runs with
  | (first, last) :: older => if last + 1 = p then (first, p) :: older else (p, p) :: runs
  | [] => [(p, p)]

/-- The maximal runs of neighbouring ports, in ascending order. -/
def runs (s : PortSet) : List (Port × Port) := (s.toList.foldl extendRuns []).reverse

/-- A one-line account of the set for diagnostics. -/
def describe (s : PortSet) : String :=
  "PortSet \x7b filled: " ++ toString s.filled ++ ", len: " ++ toString s.size ++ " \x7d"

@[simp] theorem contains_empty (p : Port) : empty.contains p = false := by
  simp [contains, empty]

theorem contains_insertRange (s : PortSet) (r : PortRange) (p : Port) :
    (s.insertRange r).contains p = (s.contains p || decide (r.Mem p)) := by
  have hFirst := r.first_pos
  rw [decide_eq_decide.mpr (r.mem_iff_toNat p)]
  by_cases hp : p = 0
  · subst hp
    have hNot : ¬ (r.first.toNat ≤ (0 : Port).toNat ∧ (0 : Port).toNat ≤ r.last.toNat) := by
      simp only [UInt16.toNat_zero]
      omega
    rw [decide_eq_false hNot]
    simp [contains]
  · have hb : (p != 0) = true := by simp [hp]
    simp [contains, insertRange, Nat.testBit_or, PortRange.testBit_mask, hb, Bool.or_assoc]

theorem contains_union (s t : PortSet) (p : Port) :
    (s.union t).contains p = (s.contains p || t.contains p) := by
  simp only [contains, union, Nat.testBit_or]
  cases p != 0 <;> cases s.filled <;> cases t.filled <;> simp

theorem contains_fill (s : PortSet) (p : Port) : s.fill.contains p = (p != 0) := by
  simp [contains, fill]

end PortSet
end ServiceProbe
