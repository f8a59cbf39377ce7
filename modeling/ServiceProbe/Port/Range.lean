/-! # Ports and ranges of ports

A range holds at least one port, and never port zero. -/

namespace ServiceProbe
set_option autoImplicit false

abbrev Port := UInt16

structure PortRange where
  first : Port
  last : Port
  first_ne_zero : first ≠ 0
  first_le_last : first ≤ last
  deriving DecidableEq

namespace PortRange

def Mem (r : PortRange) (p : Port) : Prop := r.first ≤ p ∧ p ≤ r.last

instance (r : PortRange) (p : Port) : Decidable (r.Mem p) := inferInstanceAs (Decidable (_ ∧ _))

theorem mem_iff_toNat (r : PortRange) (p : Port) :
    r.Mem p ↔ r.first.toNat ≤ p.toNat ∧ p.toNat ≤ r.last.toNat := by
  simp [Mem, UInt16.le_iff_toNat_le]

/-- The number whose binary digit at place `i` is set exactly when the range holds port `i`. -/
def mask (r : PortRange) : Nat :=
  (1 <<< (r.last.toNat + 1 - r.first.toNat) - 1) <<< r.first.toNat

theorem testBit_mask (r : PortRange) (i : Nat) :
    r.mask.testBit i = decide (r.first.toNat ≤ i ∧ i ≤ r.last.toNat) := by
  have hLe : r.first.toNat ≤ r.last.toNat := UInt16.le_iff_toNat_le.mp r.first_le_last
  simp only [mask, Nat.one_shiftLeft, Nat.testBit_shiftLeft, Nat.testBit_two_pow_sub_one, ← Bool.decide_and]
  exact decide_eq_decide.mpr (by omega)

theorem first_pos (r : PortRange) : 0 < r.first.toNat := by
  have h : r.first.toNat ≠ 0 := fun h => r.first_ne_zero (UInt16.toNat_inj.mp (by simpa using h))
  omega

end PortRange
end ServiceProbe
