import Mathlib.Data.List.Basic
import Mathlib.Data.List.Induction
import ServiceProbe.Expansion
import Std.Data.HashSet.Lemmas

/-! # Where addresses are seen first

Dropping repetitions keeps of every address its first occurrence, so the addresses that are left
stand in the order of their first places in the whole list. -/

namespace ServiceProbe.Expansion
set_option autoImplicit false

/-- The members of a list of addresses, by the places where they are seen first. -/
structure FirstSeen (all addresses : List Address) : Prop where
  mem_iff : ∀ a, a ∈ addresses ↔ a ∈ all
  ordered : addresses.Pairwise fun a b => all.idxOf a < all.idxOf b

variable {all addresses others : List Address} {a : Address}

theorem FirstSeen.nodup (h : FirstSeen all addresses) : addresses.Nodup := by
  refine h.ordered.imp ?_
  rintro a b hLess rfl
  exact Nat.lt_irrefl _ hLess

theorem FirstSeen.eq (h : FirstSeen all addresses) (k : FirstSeen all others) :
    addresses = others := by
  have hPerm : addresses.Perm others := by
    rw [List.perm_ext_iff_of_nodup h.nodup k.nodup]
    intro a
    rw [h.mem_iff, k.mem_iff]
  exact hPerm.eq_of_pairwise (fun a b _ _ hab hba => absurd hab (Nat.lt_asymm hba))
    h.ordered k.ordered

/-- What is seen later changes no place of what was seen. -/
theorem FirstSeen.ordered_append (h : FirstSeen all addresses) (later : List Address) :
    addresses.Pairwise fun a b => (all ++ later).idxOf a < (all ++ later).idxOf b := by
  refine h.ordered.imp_of_mem fun hb hc hLess => ?_
  rwa [List.idxOf_append_of_mem ((h.mem_iff _).mp hb), List.idxOf_append_of_mem ((h.mem_iff _).mp hc)]

theorem FirstSeen.concat_of_mem (h : FirstSeen all addresses) (ha : a ∈ all) :
    FirstSeen (all ++ [a]) addresses := by
  constructor
  · intro b
    rw [h.mem_iff, List.mem_append, List.mem_singleton]
    constructor
    · exact .inl
    · rintro (hb | rfl)
      · exact hb
      · exact ha
  · exact h.ordered_append [a]

theorem FirstSeen.concat_of_not_mem (h : FirstSeen all addresses) (ha : a ∉ all) :
    FirstSeen (all ++ [a]) (addresses ++ [a]) := by
  constructor
  · intro b
    rw [List.mem_append, List.mem_append, h.mem_iff]
  · refine List.pairwise_append.mpr ⟨h.ordered_append [a], List.pairwise_singleton _ _, ?_⟩
    intro b hb c hc
    cases List.mem_singleton.mp hc
    have hOld : b ∈ all := (h.mem_iff b).mp hb
    have hPlace : all.idxOf b < all.length := List.idxOf_lt_length_of_mem hOld
    rw [List.idxOf_append_of_mem hOld, List.idxOf_append_of_notMem ha]
    omega

/-- What is kept of the addresses before a place: their first occurrences, and all of them as a set. -/
theorem firstSeen_foldl_addNew (all : List Address) :
    FirstSeen all (all.foldl addNew ([], ∅)).1.reverse ∧
      ∀ a, a ∈ (all.foldl addNew ([], ∅)).2 ↔ a ∈ all := by
  induction all using List.reverseRecOn with
  | nil => exact ⟨⟨by simp, by simp⟩, by simp⟩
  | append_singleton all a ih =>
    obtain ⟨hSeen, hSet⟩ := ih
    rw [List.foldl_append, List.foldl_cons, List.foldl_nil]
    generalize all.foldl addNew ([], ∅) = seen at hSeen hSet
    by_cases ha : a ∈ all
    · have hSame : addNew seen a = seen := if_pos (Std.HashSet.contains_iff_mem.mpr ((hSet a).mpr ha))
      rw [hSame]
      refine ⟨hSeen.concat_of_mem ha, fun b => ?_⟩
      rw [hSet, ← (hSeen.concat_of_mem ha).mem_iff, hSeen.mem_iff]
    · have hAdded : addNew seen a = (a :: seen.1, seen.2.insert a) := by
        refine if_neg fun hIn => ha ((hSet a).mp (Std.HashSet.contains_iff_mem.mp hIn))
      rw [hAdded]
      refine ⟨?_, fun b => ?_⟩
      · rw [List.reverse_cons]
        exact hSeen.concat_of_not_mem ha
      · rw [Std.HashSet.mem_insert, hSet, List.mem_append, List.mem_singleton, beq_iff_eq, or_comm,
          eq_comm]

theorem firstSeen_unique (all : List Address) : FirstSeen all (unique all) :=
  (firstSeen_foldl_addNew all).1

theorem unique_eq_iff : unique all = addresses ↔ FirstSeen all addresses := by
  constructor
  · rintro rfl
    exact firstSeen_unique all
  · exact (firstSeen_unique all).eq

theorem unique_eq_nil_iff : unique all = [] ↔ all = [] := by
  simp only [List.eq_nil_iff_forall_not_mem, (firstSeen_unique all).mem_iff]

end ServiceProbe.Expansion
