import ServiceProbe.Program
import ServiceProbe.Proofs.Address.Composed
import ServiceProbe.Proofs.Address.Printed
import ServiceProbe.Proofs.Discovery.Kept
import ServiceProbe.Proofs.Port.Grammar
import ServiceProbe.Proofs.Port.Written

/-! # The targets of a scan

The hosts that discovery keeps are scanned at every port of the expression. Every pair of a host and
a port becomes one target, in the order of the hosts and then of the ports, and no two targets have
the same address. -/

namespace ServiceProbe
set_option autoImplicit false

/-! ## Ports of an expression -/

namespace PortSet

variable {s : PortSet} {p : Port}

theorem contains_of_ports {e : Text} (h : Expansion.ports e = .ok s) (p : Port) :
    s.contains p = true ↔ PortExpression.Names e p := by
  unfold Expansion.ports parse load at h
  cases hRead : PortExpression.read e with
  | error fault =>
    rw [hRead] at h
    cases h
  | ok ranges =>
    rw [hRead] at h
    cases h
    rw [contains_foldl_insertRange, contains_empty, Bool.false_or]
    exact PortExpression.any_mem_of_read hRead p

end PortSet

/-! ## Addresses of targets -/

namespace Target

theorem head_render_ne_bracket (a : Address) : a.render.head? ≠ some '[' := fun hHead =>
  absurd (Address.isSign_of_mem_render (List.mem_of_head? hHead)) (by decide)

theorem addressOf_inj {a b : Address} {p q : Port}
    (h : addressOf a.render p = addressOf b.render q) : a = b ∧ p = q := by
  rw [addressOf_eq_iff (head_render_ne_bracket a) (head_render_ne_bracket b)] at h
  exact ⟨Address.render_injective h.1, h.2⟩

def ofPair (pair : Address × Port) : Target := .ofHostPort (String.ofList pair.1.render) pair.2

theorem address_ofPair_injective : Function.Injective fun pair => (ofPair pair).address := by
  rintro ⟨a, p⟩ ⟨b, q⟩ h
  simp only [ofPair, ofHostPort, String.toList_ofList] at h
  obtain ⟨rfl, rfl⟩ := addressOf_inj (String.ofList_injective h)
  rfl

theorem hostPort_ofPair_injective : Function.Injective fun pair => ((ofPair pair).host, (ofPair pair).port) := by
  rintro ⟨a, p⟩ ⟨b, q⟩ h
  obtain ⟨hHost, rfl⟩ := Prod.mk.inj h
  obtain rfl := Address.render_injective (String.ofList_injective hHost)
  rfl

end Target

/-! ## Pairs of hosts and ports -/

namespace Program

/-- Every pair of a survivor and a port, by the place where the host is seen first and the port. -/
structure IsCross (seen survivors : List Address) (e : Text) (pairs : List (Address × Port)) :
    Prop where
  mem_iff : ∀ a port, (a, port) ∈ pairs ↔ a ∈ survivors ∧ PortExpression.Names e port
  ordered : pairs.Pairwise fun x y => seen.idxOf x.1 < seen.idxOf y.1 ∨ x.1 = y.1 ∧ x.2 < y.2

variable {seen survivors : List Address} {e : Text} {pairs : List (Address × Port)}

theorem IsCross.nodup (h : IsCross seen survivors e pairs) : pairs.Nodup := by
  refine h.ordered.imp ?_
  rintro x y hLess rfl
  rcases hLess with hLess | ⟨_, hLess⟩
  · exact Nat.lt_irrefl _ hLess
  · exact UInt16.lt_irrefl _ hLess

theorem isCross_flatMap {ports : PortSet} (hPorts : Expansion.ports e = .ok ports)
    (hOrder : survivors.Pairwise fun a b => seen.idxOf a < seen.idxOf b) :
    IsCross seen survivors e (survivors.flatMap fun a => ports.toList.map (a, ·)) := by
  constructor
  · intro a port
    rw [← PortSet.contains_of_ports hPorts, ← PortSet.mem_toList, List.mem_flatMap]
    simp
  · refine List.pairwise_flatMap.mpr ⟨fun a _ => ?_, hOrder.imp fun hLess x hx y hy => ?_⟩
    · exact List.pairwise_map.mpr (ports.pairwise_toList.imp fun hLess => .inr ⟨rfl, hLess⟩)
    · obtain ⟨_, _, rfl⟩ := List.mem_map.mp hx
      obtain ⟨_, _, rfl⟩ := List.mem_map.mp hy
      exact .inl hLess

theorem crossTargets_eq (survivors : List Address) (ports : PortSet) : crossTargets survivors ports =
    (survivors.flatMap fun a => ports.toList.map (a, ·)).map Target.ofPair := by
  simp [crossTargets, List.map_flatMap, Function.comp_def, Target.ofPair]

end Program
end ServiceProbe
