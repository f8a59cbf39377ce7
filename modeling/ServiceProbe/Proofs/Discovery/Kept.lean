import Mathlib.Data.List.Sort
import ServiceProbe.Discovery
import ServiceProbe.Proofs.Pool.Completion

/-! # Hosts that are kept

One check of every host, in whatever order the checks have ended, leaves the hosts that are kept in
the order in which they were given, each as often as it was given. -/

namespace ServiceProbe.Discovery
set_option autoImplicit false

variable {hosts : List Address} {checks : List Check}

def IsRound (hosts : List Address) (checks : List Check) : Prop :=
  (checks.map fun c => (c.host, c.place)).Perm hosts.zipIdx

theorem pairwise_zipIdx (hosts : List Address) : hosts.zipIdx.Pairwise fun x y => x.2 < y.2 := by
  rw [← List.pairwise_map (f := Prod.snd), List.zipIdx_map_snd]
  exact List.pairwise_lt_range' 1

theorem IsRound.pairwise_sorted (h : IsRound hosts checks) :
    ((checks.filter Check.keeps).mergeSort fun a b => a.place ≤ b.place).Pairwise
      fun a b => a.place < b.place := by
  have hSorted := Pool.pairwise_mergeSort_place Check.place (checks.filter Check.keeps)
  have hPlaces : (checks.map Check.place).Nodup := by
    have hAll : (checks.map Check.place).Perm (List.range' 0 hosts.length) := by
      have hSecond := h.map Prod.snd
      rwa [List.map_map, List.zipIdx_map_snd] at hSecond
    exact hAll.nodup_iff.mpr (List.nodup_range' 1)
  have hKept : ((checks.filter Check.keeps).map Check.place).Nodup :=
    hPlaces.sublist (List.filter_sublist.map _)
  have hDistinct : (((checks.filter Check.keeps).mergeSort
      fun a b => a.place ≤ b.place).map Check.place).Nodup :=
    ((List.mergeSort_perm _ _).map Check.place).nodup_iff.mpr hKept
  refine (hSorted.and (List.pairwise_map.mp hDistinct)).imp fun ⟨hLe, hNe⟩ => ?_
  exact Nat.lt_of_le_of_ne hLe hNe

theorem IsRound.kept_sublist (h : IsRound hosts checks) : (kept checks).Sublist hosts := by
  let sorted := (checks.filter Check.keeps).mergeSort fun a b => a.place ≤ b.place
  have hSubperm : (sorted.map fun c => (c.host, c.place)).Subperm hosts.zipIdx := by
    have hPerm := (List.mergeSort_perm (checks.filter Check.keeps) fun a b =>
      decide (a.place ≤ b.place)).map fun c => (c.host, c.place)
    exact (hPerm.subperm.trans (List.filter_sublist.map _).subperm).trans h.subperm
  have : Std.Antisymm fun x y : Address × Nat => x.2 < y.2 :=
    ⟨fun x y hLess hGreater => absurd hLess (Nat.lt_asymm hGreater)⟩
  have hSublist := List.sublist_of_subperm_of_pairwise hSubperm
    (List.pairwise_map.mpr h.pairwise_sorted) (pairwise_zipIdx hosts)
  have hHosts := hSublist.map Prod.fst
  rwa [List.map_map, List.zipIdx_map_fst] at hHosts

theorem IsRound.kept_eq (h : IsRound hosts checks) {keeps : Address × Nat → Bool}
    (hKeeps : ∀ c ∈ checks, c.keeps = keeps (c.host, c.place)) :
    kept checks = (hosts.zipIdx.filter keeps).map Prod.fst := by
  let sorted := (checks.filter Check.keeps).mergeSort fun a b => a.place ≤ b.place
  have hPairs : (checks.filter Check.keeps).map (fun c => (c.host, c.place)) =
      (checks.map fun c => (c.host, c.place)).filter keeps := by
    rw [List.filter_map]
    exact congrArg _ (List.filter_congr hKeeps)
  have hPerm : (sorted.map fun c => (c.host, c.place)).Perm (hosts.zipIdx.filter keeps) := by
    refine ((List.mergeSort_perm _ _).map _).trans ?_
    rw [hPairs]
    exact h.filter keeps
  have hSame : sorted.map (fun c => (c.host, c.place)) = hosts.zipIdx.filter keeps := by
    refine hPerm.eq_of_pairwise ?_ (List.pairwise_map.mpr h.pairwise_sorted)
      ((pairwise_zipIdx hosts).sublist List.filter_sublist)
    intro x y _ _ hLess hGreater
    exact absurd hLess (Nat.lt_asymm hGreater)
  rw [← hSame, List.map_map]
  rfl

end ServiceProbe.Discovery
