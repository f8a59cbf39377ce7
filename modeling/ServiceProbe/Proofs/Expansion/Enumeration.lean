import Mathlib.Data.List.Nodup
import ServiceProbe.Expansion

/-! # Blocks and ranges as sets of addresses

Blocks and ranges are expanded to runs of numbers. Here they are described by the addresses that
belong to them: those that agree on a prefix, or that lie between two ends. The expansion is the one
list of these addresses in ascending order. -/

namespace ServiceProbe
set_option autoImplicit false

def Address.number : Address → Nat
  | v4 bits => bits.toNat
  | v6 bits => bits.toNat

/-- The addresses that have a property, from the lowest to the highest. -/
structure Enumerates (p : Address → Prop) (addresses : List Address) : Prop where
  mem_iff : ∀ a, a ∈ addresses ↔ p a
  ascending : addresses.Pairwise fun a b => a.number < b.number

/-- The addresses of version 4 from one to another. -/
def Address.IsBetween (first last : BitVec 32) : Address → Prop
  | v4 bits => first ≤ bits ∧ bits ≤ last
  | v6 _ => False

namespace Block

/-- The addresses of the family that have the bits of the prefix. -/
def Covers : Block → Address → Prop
  | v4 bits length, .v4 x => x >>> (32 - length.val) = bits >>> (32 - length.val)
  | v6 bits length, .v6 x => x >>> (128 - length.val) = bits >>> (128 - length.val)
  | _, _ => False

/-- A block of version 4 with more than two addresses has no host at its lowest and its highest. -/
def IsHost (b : Block) (a : Address) : Prop :=
  b.Covers a ∧ match b with
    | v4 _ length => length.val < 31 →
      (∃ lower, b.Covers lower ∧ lower.number < a.number) ∧
        ∃ higher, b.Covers higher ∧ a.number < higher.number
    | v6 _ _ => True

end Block

variable {p : Address → Prop} {addresses others : List Address}

theorem Enumerates.eq (h : Enumerates p addresses) (k : Enumerates p others) :
    addresses = others := by
  have hNodup {l : List Address} (hl : Enumerates p l) : l.Nodup := by
    refine hl.ascending.imp ?_
    rintro a b hLess rfl
    exact Nat.lt_irrefl _ hLess
  have hPerm : addresses.Perm others := by
    rw [List.perm_ext_iff_of_nodup (hNodup h) (hNodup k)]
    intro a
    rw [h.mem_iff, k.mem_iff]
  exact hPerm.eq_of_pairwise (fun a b _ _ hab hba => absurd hab (Nat.lt_asymm hba))
    h.ascending k.ascending

theorem enumerates_range' {first count : Nat} {f : Nat → Address}
    (hNumber : ∀ n, first ≤ n → n < first + count → (f n).number = n)
    (h : ∀ a, p a ↔ ∃ n, first ≤ n ∧ n < first + count ∧ f n = a) :
    Enumerates p ((List.range' first count).map f) := by
  constructor
  · intro a
    rw [h, List.mem_map]
    simp only [List.mem_range'_1, and_assoc]
  · rw [List.pairwise_map]
    refine (List.pairwise_lt_range' 1).imp_of_mem fun {n m} hn hm hLess => ?_
    rw [List.mem_range'_1] at hn hm
    rwa [hNumber n hn.1 hn.2, hNumber m hm.1 hm.2]

theorem enumerates_range {first last : BitVec 32} (h : first ≤ last) :
    Enumerates (Address.IsBetween first last)
      ((List.range' first.toNat (last.toNat - first.toNat + 1)).map fun n =>
        .v4 (BitVec.ofNat 32 n)) := by
  have hOrder : first.toNat ≤ last.toNat := h
  have hBound := last.isLt
  refine enumerates_range' ?_ ?_
  · intro n hFirst hLast
    exact (BitVec.toNat_ofNat n 32).trans (Nat.mod_eq_of_lt (by omega))
  · rintro (bits | bits)
    · constructor
      · rintro ⟨hFirst, hLast⟩
        have hFirstNat : first.toNat ≤ bits.toNat := hFirst
        have hLastNat : bits.toNat ≤ last.toNat := hLast
        exact ⟨bits.toNat, hFirstNat, by omega, by rw [BitVec.ofNat_toNat, BitVec.setWidth_eq]⟩
      · rintro ⟨n, hFirst, hLast, hBits⟩
        obtain rfl := Address.v4.inj hBits
        have hNat : (BitVec.ofNat 32 n).toNat = n := 
          (BitVec.toNat_ofNat n 32).trans (Nat.mod_eq_of_lt (by omega))
        refine ⟨?_, ?_⟩
        · rwa [BitVec.le_def, hNat]
        · rw [BitVec.le_def, hNat]
          omega
    · constructor
      · exact False.elim
      · rintro ⟨n, _, _, hBits⟩
        cases hBits

namespace Block

/-! ## Prefixes -/

theorem shiftRight_eq_iff (x n free : Nat) :
    x >>> free = n >>> free ↔ base n free ≤ x ∧ x < base n free + 1 <<< free := by
  have hPos : 0 < 1 <<< free := by
    rw [Nat.one_shiftLeft]
    exact Nat.two_pow_pos free
  simp only [base, Nat.shiftLeft_eq, Nat.shiftRight_eq_div_pow, Nat.one_mul] at *
  rw [Nat.div_eq_iff hPos]
  omega

theorem base_add_le {n free width : Nat} (hn : n < 1 <<< width) (hFree : free ≤ width) :
    base n free + 1 <<< free ≤ 1 <<< width := by
  obtain ⟨rest, rfl⟩ := Nat.exists_eq_add_of_le hFree
  simp only [base, Nat.shiftLeft_eq, Nat.shiftRight_eq_div_pow, Nat.one_mul, Nat.pow_add] at *
  have hQuotient : n / 2 ^ free < 2 ^ rest := Nat.div_lt_of_lt_mul hn
  calc
    n / 2 ^ free * 2 ^ free + 2 ^ free = (n / 2 ^ free + 1) * 2 ^ free := by rw [Nat.add_one_mul]
    _ ≤ 2 ^ rest * 2 ^ free := Nat.mul_le_mul_right _ hQuotient
    _ = 2 ^ free * 2 ^ rest := Nat.mul_comm _ _

def first : Block → Nat
  | v4 bits length => base bits.toNat (32 - length.val)
  | v6 bits length => base bits.toNat (128 - length.val)

variable {b : Block} {a : Address} {n : Nat}

theorem number_ofNumber (h : n < b.first + 1 <<< b.hostBits) : (b.ofNumber n).number = n := by
  cases b with
  | v4 bits length =>
    have hAll : base bits.toNat (32 - length.val) + 1 <<< (32 - length.val) ≤ 1 <<< 32 :=
      base_add_le bits.isLt (by omega)
    exact (BitVec.toNat_ofNat n 32).trans (Nat.mod_eq_of_lt (Nat.lt_of_lt_of_le h hAll))
  | v6 bits length =>
    have hAll : base bits.toNat (128 - length.val) + 1 <<< (128 - length.val) ≤ 1 <<< 128 :=
      base_add_le bits.isLt (by omega)
    exact (BitVec.toNat_ofNat n 128).trans (Nat.mod_eq_of_lt (Nat.lt_of_lt_of_le h hAll))

theorem shares_iff {width free : Nat} {bits x : BitVec width} : x >>> free = bits >>> free ↔
    base bits.toNat free ≤ x.toNat ∧ x.toNat < base bits.toNat free + 1 <<< free := by
  rw [← BitVec.toNat_inj, BitVec.toNat_ushiftRight, BitVec.toNat_ushiftRight, shiftRight_eq_iff]

/-- The addresses of a block are a run of numbers. -/
theorem covers_iff : b.Covers a ↔
    ∃ n, b.first ≤ n ∧ n < b.first + 1 <<< b.hostBits ∧ b.ofNumber n = a := by
  constructor
  · intro h
    cases b with
    | v4 bits length =>
      cases a with
      | v4 x =>
        obtain ⟨hFirst, hLast⟩ := shares_iff.mp h
        exact ⟨x.toNat, hFirst, hLast, congrArg Address.v4 (by simp)⟩
      | v6 x => cases h
    | v6 bits length =>
      cases a with
      | v4 x => cases h
      | v6 x =>
        obtain ⟨hFirst, hLast⟩ := shares_iff.mp h
        exact ⟨x.toNat, hFirst, hLast, congrArg Address.v6 (by simp)⟩
  · rintro ⟨n, hFirst, hLast, rfl⟩
    have hNumber := number_ofNumber hLast
    cases b with
    | v4 bits length =>
      change (BitVec.ofNat 32 n).toNat = n at hNumber
      exact shares_iff.mpr ⟨hNumber.symm ▸ hFirst, hNumber.symm ▸ hLast⟩
    | v6 bits length =>
      change (BitVec.ofNat 128 n).toNat = n at hNumber
      exact shares_iff.mpr ⟨hNumber.symm ▸ hFirst, hNumber.symm ▸ hLast⟩

theorem exists_covers_iff {p : Nat → Prop} : (∃ a, b.Covers a ∧ p a.number) ↔
    ∃ n, b.first ≤ n ∧ n < b.first + 1 <<< b.hostBits ∧ p n := by
  constructor
  · rintro ⟨a, ha, hp⟩
    obtain ⟨n, hFirst, hLast, rfl⟩ := covers_iff.mp ha
    exact ⟨n, hFirst, hLast, number_ofNumber hLast ▸ hp⟩
  · rintro ⟨n, hFirst, hLast, hp⟩
    exact ⟨b.ofNumber n, covers_iff.mpr ⟨n, hFirst, hLast, rfl⟩, (number_ofNumber hLast).symm ▸ hp⟩

theorem enumerates_covered (b : Block) : Enumerates b.Covers
    ((List.range' b.first (1 <<< b.hostBits)).map b.ofNumber) :=
  enumerates_range' (fun _ _ hLast => number_ofNumber hLast) fun _ => covers_iff

theorem enumerates_inner (b : Block) : Enumerates
    (fun a => b.Covers a ∧ (∃ lower, b.Covers lower ∧ lower.number < a.number) ∧
      ∃ higher, b.Covers higher ∧ a.number < higher.number)
    ((List.range' (b.first + 1) (1 <<< b.hostBits - 2)).map b.ofNumber) := by
  refine enumerates_range' (fun n _ hLast => number_ofNumber (by omega)) fun a => ?_
  rw [covers_iff, exists_covers_iff (p := (· < a.number)), exists_covers_iff (p := (a.number < ·))]
  constructor
  · rintro ⟨⟨n, hFirst, hLast, rfl⟩, ⟨lower, hLower, _, hBelow⟩, higher, _, hHigher, hAbove⟩
    rw [number_ofNumber hLast] at hBelow hAbove
    exact ⟨n, by omega, by omega, rfl⟩
  · rintro ⟨n, hFirst, hLast, rfl⟩
    have hNumber : (b.ofNumber n).number = n := number_ofNumber (by omega)
    rw [hNumber]
    exact ⟨⟨n, by omega, by omega, rfl⟩, ⟨b.first, by omega, by omega, by omega⟩,
      ⟨n + 1, by omega, by omega, by omega⟩⟩

theorem enumerates_hosts (b : Block) : Enumerates b.IsHost b.hosts := by
  cases b with
  | v4 bits length =>
    by_cases hSmall : length.val < 31
    · have hHosts : (v4 bits length).hosts = (List.range' ((v4 bits length).first + 1)
          (1 <<< (v4 bits length).hostBits - 2)).map (v4 bits length).ofNumber := by
        have hFree : 1 < 32 - length.val := by omega
        simp only [hosts, hostNumbers, hFree, if_true]
        rfl
      have hInner := enumerates_inner (v4 bits length)
      rw [hHosts]
      refine ⟨fun a => (hInner.mem_iff a).trans ?_, hInner.ascending⟩
      simp only [IsHost, hSmall, forall_const]
    · have hHosts : (v4 bits length).hosts = (List.range' (v4 bits length).first
          (1 <<< (v4 bits length).hostBits)).map (v4 bits length).ofNumber := by
        have hFree : ¬ 1 < 32 - length.val := by omega
        simp only [hosts, hostNumbers, hFree, if_false]
        rfl
      have hAll := enumerates_covered (v4 bits length)
      rw [hHosts]
      refine ⟨fun a => (hAll.mem_iff a).trans ?_, hAll.ascending⟩
      simp only [IsHost, hSmall, false_imp_iff, and_true]
  | v6 bits length =>
    have hAll := enumerates_covered (v6 bits length)
    refine ⟨fun a => (hAll.mem_iff a).trans ?_, hAll.ascending⟩
    simp only [IsHost, and_true]

end Block
end ServiceProbe
