import ServiceProbe.Proofs.Scan.Reference

/-! # Thresholds of rarity

A threshold lets some of the probes of a port through and keeps them in order. When replies depend
on the request alone, a probe brings the same finger wherever it stands in a walk, so two thresholds
can be compared: the higher one finds whatever the lower one finds, and finds something else only
through a probe that the lower one leaves out. -/

namespace ServiceProbe.Scanner
set_option autoImplicit false

/-- Whether a threshold lets no probe through that the other one keeps out. -/
def AtMost (low high : Option UInt8) : Prop :=
  ∀ limit, high = some limit → ∃ lower, low = some lower ∧ lower ≤ limit

def withThreshold (s : Scanner) (threshold : Option UInt8) : Scanner :=
  { s with options := { s.options with rarityThreshold := threshold } }

/-- The finger that a probe brings when a reply depends on its request alone. -/
def fingerOf (s : Scanner) (answer : Request → Reply) (target : Target) (p : Probe) : Option Finger :=
  s.matchReply p (answer (request p target))

section

variable {s : Scanner} {low high : Option UInt8} {p : Probe} {ps : List Probe} {target : Target}
  {answer : Request → Reply} {history : List Request}

theorem admits_of_atMost (h : AtMost low high) (hp : admits low p = true) :
    admits high p = true := by
  cases high with
  | none => rfl
  | some limit =>
    obtain ⟨lower, rfl, hLower⟩ := h limit rfl
    unfold admits at hp ⊢
    cases hRarity : p.rarity with
    | none => rfl
    | some rarity =>
      rw [hRarity] at hp
      simp only [decide_eq_true_eq] at hp ⊢
      exact Nat.le_trans hp (UInt8.le_iff_toNat_le.mp hLower)

theorem candidates_of_atMost (h : AtMost low high) (port : Port) :
    (s.withThreshold low).candidates port =
      ((s.withThreshold high).candidates port).filter (admits low) := by
  unfold candidates
  rw [List.filter_filter]
  refine List.filter_congr fun p _ => ?_
  change admits low p = (admits low p && admits high p)
  cases hLow : admits low p with
  | false => rfl
  | true => rw [admits_of_atMost h hLow, Bool.and_self]

theorem run_walk_cases (s : Scanner) (answer : Request → Reply) (target : Target)
    (ps : List Probe) (history : List Request) :
    ((∀ p ∈ ps, s.fingerOf answer target p = none) ∧
        (s.walk target ps).run (fun _ => answer) history = (requests target ps, none)) ∨
      ∃ missed p rest finger, ps = missed ++ p :: rest ∧
        (∀ q ∈ missed, s.fingerOf answer target q = none) ∧
        s.fingerOf answer target p = some finger ∧
        (s.walk target ps).run (fun _ => answer) history =
          (requests target (missed ++ [p]), some finger) := by
  induction ps generalizing history with
  | nil => exact .inl ⟨List.forall_mem_nil _, rfl⟩
  | cons p ps ih =>
    cases hFinger : s.fingerOf answer target p with
    | some finger =>
      refine .inr ⟨[], p, ps, finger, rfl, List.forall_mem_nil _, hFinger, ?_⟩
      have hReply : s.matchReply p (answer (request p target)) = some finger := hFinger
      simp only [walk, Dialogue.run, hReply]
      rfl
    | none =>
      have hReply : s.matchReply p (answer (request p target)) = none := hFinger
      have hRun : (s.walk target (p :: ps)).run (fun _ => answer) history =
          (request p target ::
            ((s.walk target ps).run (fun _ => answer) (history ++ [request p target])).1,
            ((s.walk target ps).run (fun _ => answer) (history ++ [request p target])).2) := by
        simp only [walk, Dialogue.run, hReply]
      rw [hRun]
      rcases ih (history ++ [request p target]) with
        ⟨hNone, hRest⟩ | ⟨missed, q, rest, finger, rfl, hMissed, hFound, hRest⟩
      · rw [hRest]
        exact .inl ⟨List.forall_mem_cons.mpr ⟨hFinger, hNone⟩, rfl⟩
      · rw [hRest]
        exact .inr ⟨p :: missed, q, rest, finger, rfl,
          List.forall_mem_cons.mpr ⟨hFinger, hMissed⟩, hFound, rfl⟩

theorem run_walk_finger (s : Scanner) (answer : Request → Reply) (target : Target)
    (ps : List Probe) (history : List Request) :
    ((s.walk target ps).run (fun _ => answer) history).2 =
      ps.findSome? (s.fingerOf answer target) := by
  rcases s.run_walk_cases answer target ps history with
    ⟨hNone, hRun⟩ | ⟨missed, p, rest, finger, rfl, hMissed, hFound, hRun⟩
  · rw [hRun]
    exact (List.findSome?_eq_none_iff.mpr hNone).symm
  · rw [hRun, List.findSome?_append, List.findSome?_eq_none_iff.mpr hMissed, List.findSome?_cons,
      hFound]
    rfl

theorem scan_withThreshold (s : Scanner) (threshold : Option UInt8) (target : Target) :
    (s.withThreshold threshold).scan target =
      if s.refuses target.port then .done none
      else s.walk target ((s.withThreshold threshold).candidates target.port) := by
  have hWalk (ps : List Probe) : (s.withThreshold threshold).walk target ps = s.walk target ps :=
    walk_congr fun _ _ => rfl
  rw [scan, hWalk]
  rfl

end

/-- A higher threshold loses no identification, and changes one only through a probe that the lower
one leaves out. -/
theorem raised_threshold_keeps_fingers (s : Scanner) (low high : Option UInt8) (h : AtMost low high)
    (target : Target) (answer : Request → Reply) (history : List Request) :
    let lower := s.withThreshold low
    let higher := s.withThreshold high
    let before := (lower.scan target).run (fun _ => answer) history
    let after := (higher.scan target).run (fun _ => answer) history
    (∀ port, (lower.candidates port).Sublist (higher.candidates port)) ∧
      (before.2.isSome = true → after.2.isSome = true) ∧
      ∀ finger, after.2 = some finger → ∃ missed last,
        missed ++ [last] <+: higher.candidates target.port ∧
          after.1 = requests target (missed ++ [last]) ∧
          (last ∈ lower.candidates target.port → before.2 = some finger) := by
  intro lower higher before after
  have hSublist : ∀ port, (lower.candidates port).Sublist (higher.candidates port) := by
    intro port
    rw [candidates_of_atMost h]
    exact List.filter_sublist
  refine ⟨hSublist, ?_⟩
  by_cases hRefused : s.refuses target.port = true
  · have hBefore : before = ([], none) := by
      simp only [before, lower, scan_withThreshold, if_pos hRefused, Dialogue.run]
    have hAfter : after = ([], none) := by
      simp only [after, higher, scan_withThreshold, if_pos hRefused, Dialogue.run]
    rw [hBefore, hAfter]
    exact ⟨id, fun finger hFinger => by cases hFinger⟩
  · have hBefore : before.2 =
        (lower.candidates target.port).findSome? (s.fingerOf answer target) := by
      simp only [before, lower, scan_withThreshold, if_neg hRefused, run_walk_finger]
    have hAfter : after = (s.walk target (higher.candidates target.port)).run
        (fun _ => answer) history := by
      simp only [after, higher, scan_withThreshold, if_neg hRefused]
    have hFilter : lower.candidates target.port =
        (higher.candidates target.port).filter (admits low) := candidates_of_atMost h target.port
    constructor
    · rw [hBefore, hAfter, run_walk_finger]
      intro hFound
      obtain ⟨p, hp, hFinger⟩ := List.findSome?_isSome_iff.mp hFound
      exact List.findSome?_isSome_iff.mpr ⟨p, (hSublist target.port).subset hp, hFinger⟩
    · intro finger hFinger
      rcases s.run_walk_cases answer target (higher.candidates target.port) history with
        ⟨_, hRun⟩ | ⟨missed, last, rest, found, hCandidates, hMissed, hFound, hRun⟩
      · rw [hAfter, hRun] at hFinger
        cases hFinger
      · rw [hAfter, hRun] at hFinger
        cases hFinger
        refine ⟨missed, last, ⟨rest, by rw [hCandidates]; simp⟩, by rw [hAfter, hRun], fun hLast => ?_⟩
        -- the probes before the last one that the lower threshold keeps bring nothing either
        have hAdmitted : admits low last = true := by
          rw [hFilter] at hLast
          exact (List.mem_filter.mp hLast).2
        have hNone : (missed.filter (admits low)).findSome? (s.fingerOf answer target) = none :=
          List.findSome?_eq_none_iff.mpr fun q hq => hMissed q (List.mem_filter.mp hq).1
        rw [hBefore, hFilter, hCandidates, List.filter_append, List.filter_cons_of_pos hAdmitted,
          List.findSome?_append, hNone, List.findSome?_cons, hFound]
        rfl

/-- A probe for every port, with a rule that any reply matches. -/
def greedy (name : String) (rarity : Nat) : Probe where
  name := name
  protocol := .tcp
  payload := []
  ports := .empty
  sslPorts := .empty
  rarity := some rarity
  totalWait := none
  tcpWrapped := none
  fallback := []
  rules := [⟨name, .hard, ⟨[], ⟨false, false⟩, .ofExpr .empty⟩, []⟩]

def rareAndCommon : Scanner :=
  ⟨.afterCalls [.register (greedy "rare" 8), .register (greedy "common" 1)], {}⟩

theorem raised_threshold_keeps_finger_of_common :
    AtMost (some 5) none ∧
      (((rareAndCommon.withThreshold (some 5)).scan (.ofHostPort "h" 80)).run
        (fun _ _ => .ok []) []).2 = some { probe := "common", service := "common" } ∧
      (((rareAndCommon.withThreshold none).scan (.ofHostPort "h" 80)).run
        (fun _ _ => .ok []) []).2.isSome = true := by
  have hAtMost : AtMost (some 5) none := fun limit hLimit => by cases hLimit
  have hEligible : (rareAndCommon.withThreshold (some 5)).candidates 80 = [greedy "common" 1] :=
    (candidates_eq_eligible (Registry.consistent_afterCalls _) 80).trans rfl
  have hFound : (((rareAndCommon.withThreshold (some 5)).scan (.ofHostPort "h" 80)).run
      (fun _ _ => .ok []) []).2 = some { probe := "common", service := "common" } := by
    have hOpen : rareAndCommon.refuses 80 = false := rfl
    have hPort : (Target.ofHostPort "h" 80).port = 80 := rfl
    rw [scan_withThreshold, hPort, hOpen, hEligible, if_neg Bool.false_ne_true, run_walk_finger]
    decide +kernel
  obtain ⟨_, hKept, _⟩ := raised_threshold_keeps_fingers rareAndCommon (some 5) none hAtMost
    (.ofHostPort "h" 80) (fun _ => .ok []) []
  exact ⟨hAtMost, hFound, hKept (by rw [hFound]; rfl)⟩

end ServiceProbe.Scanner
