import ServiceProbe.Proofs.Registry.Consistency
import ServiceProbe.Scanner

/-! # What a scan sends and finds

A scan is compared with a description that names no order of steps: the probes that may be sent to a
port, what the exchange at each place of that list would bring, and the first place that brings a
finger. The reply at a place may depend on all requests before it. -/

namespace ServiceProbe.Scanner
set_option autoImplicit false

def eligible (s : Scanner) (port : Port) : List Probe :=
  s.registry.probes.filter fun p => p.appliesTo port && p.rarity.all fun rarity =>
    s.options.rarityThreshold.all fun limit => decide (rarity ≤ limit.toNat)

def requests (target : Target) (ps : List Probe) : List Request :=
  ps.map fun p => {
    protocol := p.protocol
    address := target.address
    payload := p.payload
    totalWait := p.totalWait
    tcpWrapped := p.tcpWrapped }

def replyAt (transport : Transport) (history : List Request) (target : Target) (ps : List Probe)
    (k : Nat) : Option Reply :=
  (requests target ps)[k]?.map (transport (history ++ (requests target ps).take k))

/-- The finger that the exchange at a place brings, which takes a reply and a rule that matches it. -/
def fingerAt (s : Scanner) (transport : Transport) (history : List Request) (target : Target)
    (ps : List Probe) (k : Nat) : Option Finger :=
  match ps[k]?, replyAt transport history target ps k with
  | some p, some (.ok reply) => s.match? p reply
  | _, _ => none

/-- The requests up to the first place that brings a finger, and that finger. -/
def reference (s : Scanner) (transport : Transport) (history : List Request) (target : Target)
    (ps : List Probe) : List Request × Option Finger :=
  let found := s.fingerAt transport history target ps
  match (List.range ps.length).find? fun k => (found k).isSome with
  | some k => ((requests target ps).take (k + 1), found k)
  | none => (requests target ps, none)

section

variable (s : Scanner) (transport : Transport) (history : List Request) (target : Target)
  (p : Probe) (ps : List Probe) (k : Nat)

@[simp] theorem requests_cons : requests target (p :: ps) = request p target :: requests target ps := rfl

@[simp] theorem length_requests : (requests target ps).length = ps.length := List.length_map _

theorem walk_congr {s t : Scanner} {ps : List Probe} {target : Target}
    (h : ∀ p ∈ ps, s.matchReply p = t.matchReply p) : s.walk target ps = t.walk target ps := by
  induction ps with
  | nil => rfl
  | cons p ps ih =>
    obtain ⟨hFirst, hRest⟩ := List.forall_mem_cons.mp h
    simp only [walk, hFirst, ih hRest]

theorem fingerAt_zero : s.fingerAt transport history target (p :: ps) 0 =
    s.matchReply p (transport history (request p target)) := by
  simp only [fingerAt, replyAt, requests_cons, List.getElem?_cons_zero, List.take_zero,
    List.append_nil, Option.map_some, matchReply]
  cases transport history (request p target) <;> rfl

theorem fingerAt_succ : s.fingerAt transport history target (p :: ps) (k + 1) =
    s.fingerAt transport (history ++ [request p target]) target ps k := by
  simp only [fingerAt, replyAt, requests_cons, List.getElem?_cons_succ, List.take_succ_cons,
    List.append_assoc, List.singleton_append]

theorem fingerAt_of_error {e : Error}
    (h : replyAt transport history target ps k = some (.error e)) :
    s.fingerAt transport history target ps k = none := by
  unfold fingerAt
  rw [h]
  cases ps[k]? <;> rfl

theorem reference_cons_of_some {finger : Finger}
    (h : s.matchReply p (transport history (request p target)) = some finger) :
    s.reference transport history target (p :: ps) = ([request p target], some finger) := by
  have hFirst := (s.fingerAt_zero transport history target p ps).trans h
  simp only [reference, List.length_cons, List.range_succ_eq_map, List.find?_cons, hFirst,
    Option.isSome_some, requests_cons, Nat.zero_add, List.take_succ_cons, List.take_zero]

theorem reference_cons_of_none
    (h : s.matchReply p (transport history (request p target)) = none) :
    s.reference transport history target (p :: ps) =
      let (made, finger) := s.reference transport (history ++ [request p target]) target ps
      (request p target :: made, finger) := by
  have hFirst := (s.fingerAt_zero transport history target p ps).trans h
  simp only [reference, List.length_cons, List.range_succ_eq_map, List.find?_cons, hFirst,
    Option.isSome_none, List.find?_map, Function.comp_def, fingerAt_succ]
  cases (List.range ps.length).find? fun k =>
      (s.fingerAt transport (history ++ [request p target]) target ps k).isSome with
  | none => rfl
  | some k => simp only [Option.map_some, fingerAt_succ, requests_cons, List.take_succ_cons]

theorem run_walk : (s.walk target ps).run transport history =
    s.reference transport history target ps := by
  induction ps generalizing history with
  | nil => rfl
  | cons p ps ih =>
    rw [walk, Dialogue.run]
    cases h : s.matchReply p (transport history (request p target)) with
    | some finger =>
      rw [reference_cons_of_some s transport history target p ps h]
      rfl
    | none =>
      rw [reference_cons_of_none s transport history target p ps h]
      simp only [ih]

theorem reference_goes_on {e : Error}
    (hReply : replyAt transport history target ps k = some (.error e))
    (hMade : k < (s.reference transport history target ps).1.length) (hNext : k + 1 < ps.length) :
    k + 1 < (s.reference transport history target ps).1.length := by
  simp only [reference] at hMade ⊢
  cases hFind : (List.range ps.length).find? fun k =>
      (s.fingerAt transport history target ps k).isSome with
  | some j =>
    have hSome := List.find?_some hFind
    have hNe : k ≠ j := by
      rintro rfl
      rw [s.fingerAt_of_error transport history target ps k hReply] at hSome
      cases hSome
    simp only [hFind, List.length_take, length_requests] at hMade ⊢
    omega
  | none =>
    simp only [length_requests]
    exact hNext

end

theorem candidates_eq_eligible {s : Scanner} (h : s.registry.Consistent) (port : Port) :
    s.candidates port = s.eligible port := by
  have hProbes : ((s.registry.probes.filter fun p => p.appliesTo port).map Probe.name).filterMap
      s.registry.probe? = s.registry.probes.filter fun p => p.appliesTo port := by
    have hEach : ∀ p ∈ s.registry.probes.filter fun p => p.appliesTo port,
        (s.registry.probe? ∘ Probe.name) p = some p := fun p hp =>
      h.probe?_eq_some_iff.mpr ⟨(List.mem_filter.mp hp).1, rfl⟩
    rw [List.filterMap_map, List.filterMap_congr hEach, List.filterMap_some]
  have hAdmits : ∀ p : Probe, admits s.options.rarityThreshold p = p.rarity.all fun rarity =>
      s.options.rarityThreshold.all fun limit => decide (rarity ≤ limit.toNat) := by
    intro p
    unfold admits
    cases s.options.rarityThreshold <;> cases p.rarity <;> rfl
  unfold candidates eligible
  rw [h.dispatch_eq, hProbes, List.filter_filter]
  exact List.filter_congr fun p _ => by rw [hAdmits, Bool.and_comm]

/-- A scan sends the eligible probes in the order of their declaration, one request for each, up to
the first reply that brings a finger. A failed exchange neither ends it nor counts as a finger. -/
theorem scan_eq_reference (calls : List Registry.Call) (options : ScanOptions) (target : Target)
    (transport : Transport) (history : List Request) :
    let s : Scanner := ⟨Registry.afterCalls calls, options⟩
    let ps := s.eligible target.port
    let outcome := (s.scan target).run transport history
    outcome =
        (if options.honorExclude = true ∧ s.registry.exclude.contains target.port = true then ([], none)
          else s.reference transport history target ps) ∧
      ∀ k e, replyAt transport history target ps k = some (.error e) →
        s.fingerAt transport history target ps k = none ∧
          (k < outcome.1.length → k + 1 < ps.length → k + 1 < outcome.1.length) := by
  intro s ps outcome
  have hScan : outcome = if s.refuses target.port then ([], none)
      else s.reference transport history target ps := by
    simp only [outcome, ps, scan]
    split
    · rfl
    · rw [run_walk, candidates_eq_eligible (Registry.consistent_afterCalls calls)]
  constructor
  · rw [hScan]
    simp only [refuses, Registry.isExcluded, Bool.and_eq_true, s]
  · intro k e hReply
    refine ⟨s.fingerAt_of_error transport history target ps k hReply, ?_⟩
    rw [hScan]
    split
    · exact fun hMade => absurd hMade (Nat.not_lt_zero k)
    · exact s.reference_goes_on transport history target ps k hReply

end ServiceProbe.Scanner
