import ServiceProbe.Proofs.Scan.Threshold

/-! # Probes that are registered last

A probe under a new name stands last in the list of every port it applies to, so a scan comes to it
only after all other probes have brought nothing. As long as none of them falls back on the new name,
their replies are read as before, and the scan without the new probe is the beginning of the scan
with it. -/

namespace ServiceProbe.Scanner
set_option autoImplicit false

section

variable {s t : Scanner} {r : Registry} {options : ScanOptions} {p : Probe} {ps qs : List Probe}
  {target : Target} {transport : Transport} {history made : List Request} {finger : Finger}

/-! ## Walks -/

theorem run_walk_append_of_some
    (h : (s.walk target ps).run transport history = (made, some finger)) :
    (s.walk target (ps ++ qs)).run transport history = (made, some finger) := by
  induction ps generalizing history made with
  | nil => cases h
  | cons p ps ih =>
    rw [List.cons_append, walk, Dialogue.run] at *
    cases hReply : s.matchReply p (transport history (request p target)) with
    | some found =>
      rw [hReply] at h
      exact h
    | none =>
      rw [hReply] at h
      dsimp only at h ⊢
      obtain ⟨hMade, hFinger⟩ := Prod.mk.inj h
      rw [ih (Prod.ext rfl hFinger), hMade]

theorem run_walk_append_of_none (h : (s.walk target ps).run transport history = (made, none)) :
    (s.walk target (ps ++ qs)).run transport history =
      let (more, found) := (s.walk target qs).run transport (history ++ made)
      (made ++ more, found) := by
  induction ps generalizing history made with
  | nil =>
    cases h
    rw [List.append_nil]
    rfl
  | cons p ps ih =>
    rw [List.cons_append, walk, Dialogue.run] at *
    cases hReply : s.matchReply p (transport history (request p target)) with
    | some found =>
      rw [hReply] at h
      cases h
    | none =>
      rw [hReply] at h
      dsimp only at h ⊢
      obtain ⟨hMade, hNone⟩ := Prod.mk.inj h
      rw [ih (Prod.ext rfl hNone), ← hMade]
      simp only [List.append_assoc, List.cons_append, List.nil_append]

/-! ## What a new name changes -/

theorem match?_adding {q : Probe} (h : p.name ∉ q.fallback) :
    (⟨r.adding p, options⟩ : Scanner).match? q = (⟨r, options⟩ : Scanner).match? q := by
  have hOld : q.fallback.filterMap (r.adding p).probe? = q.fallback.filterMap r.probe? := by
    refine List.filterMap_congr fun name hName => ?_
    have hNe : name ≠ p.name := by
      rintro rfl
      exact h hName
    rw [Registry.probe?_adding, if_neg hNe]
  funext reply
  simp only [match?, hOld]

/-- What lets a probe into the list of a port, wherever it stands there. -/
def MayBeSent (options : ScanOptions) (port : Port) (p : Probe) : Prop :=
  p.appliesTo port = true ∧
    ∀ rarity ∈ p.rarity, ∀ limit ∈ options.rarityThreshold, rarity ≤ limit.toNat

instance (options : ScanOptions) (port : Port) (p : Probe) : Decidable (MayBeSent options port p) :=
  inferInstanceAs (Decidable (_ ∧ _))

theorem eligible_eq_filter (port : Port) :
    s.eligible port = s.registry.probes.filter fun p => MayBeSent s.options port p := by
  refine List.filter_congr fun p _ => ?_
  rw [Bool.eq_iff_iff]
  simp [MayBeSent, Option.all_eq_true]

theorem candidates_adding (h : r.Consistent) (hNew : r.probe? p.name = none) (port : Port) :
    (⟨r.adding p, options⟩ : Scanner).candidates port =
      (⟨r, options⟩ : Scanner).candidates port ++ if MayBeSent options port p then [p] else [] := by
  rw [candidates_eq_eligible (h.adding hNew), candidates_eq_eligible h, eligible_eq_filter,
    eligible_eq_filter, h.probes_adding hNew, List.filter_append]
  simp [List.filter_cons]

theorem walk_candidates_adding (h : r.Consistent) (hUnlisted : ∀ q ∈ r.probes, p.name ∉ q.fallback)
    (port : Port) :
    (⟨r.adding p, options⟩ : Scanner).walk target ((⟨r, options⟩ : Scanner).candidates port) =
      (⟨r, options⟩ : Scanner).walk target ((⟨r, options⟩ : Scanner).candidates port) := by
  refine walk_congr fun q hq => ?_
  rw [candidates_eq_eligible h] at hq
  have hMatch : (⟨r.adding p, options⟩ : Scanner).match? q = (⟨r, options⟩ : Scanner).match? q :=
    match?_adding (hUnlisted q (List.mem_filter.mp hq).1)
  funext reply
  cases reply with
  | ok reply => exact congrFun hMatch reply
  | error e => rfl

theorem run_walk_singleton : (s.walk target [p]).run transport history =
    ([request p target], s.matchReply p (transport history (request p target))) := by
  simp only [walk, Dialogue.run]
  cases s.matchReply p (transport history (request p target)) <;> rfl

theorem matchReply_eq_some_iff {reply : Reply} :
    s.matchReply p reply = some finger ↔ ∃ bytes, reply = .ok bytes ∧ s.match? p bytes = some finger := by
  cases reply with
  | ok bytes => simp [matchReply]
  | error e => simp [matchReply]

end

/-- What is found without the last probe is found with it by the same requests, and where nothing is
found the only new request is its own. -/
theorem registered_probe_is_sent_last (calls : List Registry.Call) (p : Probe)
    (options : ScanOptions) (target : Target) (transport : Transport) (history : List Request)
    (hNew : p.name ∉ (Registry.afterCalls calls).names)
    (hUnlisted : ∀ q ∈ (Registry.afterCalls calls).probes, p.name ∉ q.fallback) :
    let r := Registry.afterCalls calls
    let s : Scanner := ⟨(r.register p).1, options⟩
    let before := ((⟨r, options⟩ : Scanner).scan target).run transport history
    let after := (s.scan target).run transport history
    let reached := p.appliesTo target.port = true ∧
      (∀ rarity ∈ p.rarity, ∀ limit ∈ options.rarityThreshold, rarity ≤ limit.toNat) ∧
      ¬ (options.honorExclude = true ∧ r.exclude.contains target.port = true)
    (r.register p).2 = none ∧
      (∀ finger, before.2 = some finger → after = before) ∧
      (before.2 = none → (reached → after.1 = before.1 ++ [request p target]) ∧
        (¬ reached → after.1 = before.1) ∧
        ∀ finger, after.2 = some finger ↔ reached ∧ ∃ reply,
          transport (history ++ before.1) (request p target) = .ok reply ∧
            s.match? p reply = some finger) := by
  intro r s before after reached
  have hConsistent : r.Consistent := Registry.consistent_afterCalls calls
  have hAbsent : r.probe? p.name = none :=
    Option.eq_none_iff_forall_ne_some.mpr fun q hq => hNew (hConsistent.mem_names_iff.mpr ⟨q, hq⟩)
  obtain ⟨_, hCall⟩ | ⟨⟨q, hTaken⟩, _⟩ := r.register_cases p
  swap
  · rw [hAbsent] at hTaken
    cases hTaken
  have hs : s = ⟨r.adding p, options⟩ := by simp only [s, hCall]
  refine ⟨by rw [hCall], ?_⟩
  have hRefuses : s.refuses target.port = (⟨r, options⟩ : Scanner).refuses target.port := by
    rw [hs]
    rfl
  by_cases hRefused : (⟨r, options⟩ : Scanner).refuses target.port = true
  · have hBefore : before = ([], none) := by
      simp only [before, scan, hRefused, if_true, Dialogue.run]
    have hAfter : after = ([], none) := by
      simp only [after, scan, hRefuses, hRefused, if_true, Dialogue.run]
    have hKept : ¬ reached := by
      rintro ⟨_, _, hOpen⟩
      exact hOpen (by simpa [refuses, Registry.isExcluded] using hRefused)
    rw [hBefore, hAfter]
    simp [hKept]
  · have hReached : reached ↔ MayBeSent options target.port p := by
      have hOpen : ¬ (options.honorExclude = true ∧ r.exclude.contains target.port = true) := by
        simpa [refuses, Registry.isExcluded] using hRefused
      simp only [reached, MayBeSent, hOpen, not_false_eq_true, and_true]
    have hOld : s.walk target ((⟨r, options⟩ : Scanner).candidates target.port) =
        (⟨r, options⟩ : Scanner).walk target ((⟨r, options⟩ : Scanner).candidates target.port) :=
      hs ▸ walk_candidates_adding hConsistent hUnlisted target.port
    have hBefore : before =
        (s.walk target ((⟨r, options⟩ : Scanner).candidates target.port)).run transport history := by
      simp only [before, scan, hRefused, hOld]
      rfl
    have hAfter : after = (s.walk target (s.candidates target.port)).run transport history := by
      simp only [after, scan, hRefuses, hRefused]
      rfl
    have hCandidates : s.candidates target.port = (⟨r, options⟩ : Scanner).candidates target.port ++
        if MayBeSent options target.port p then [p] else [] :=
      hs ▸ candidates_adding hConsistent hAbsent target.port
    rw [hCandidates] at hAfter
    rcases hRun : before with ⟨made, _ | finger⟩
    · refine ⟨fun finger hFinger => (by cases hFinger), fun _ => ?_⟩
      rw [hAfter, run_walk_append_of_none (hBefore.symm.trans hRun), hReached]
      by_cases hSent : MayBeSent options target.port p
      · rw [if_pos hSent, run_walk_singleton]
        simp [hSent, matchReply_eq_some_iff]
      · rw [if_neg hSent]
        simp [hSent, walk, Dialogue.run]
    · refine ⟨fun _ _ => ?_, fun hNone => (by cases hNone)⟩
      rw [hAfter, run_walk_append_of_some (hBefore.symm.trans hRun)]

def commonAlone : List Registry.Call := [.register (greedy "common" 1)]

/-- A scan of one port by the probes that are there before, and by those with a new one. -/
def scanBefore (transport : Transport) : List Request × Option Finger :=
  ((⟨.afterCalls commonAlone, {}⟩ : Scanner).scan (.ofHostPort "h" 80)).run transport []

def scanAfter (transport : Transport) : List Request × Option Finger :=
  ((⟨((Registry.afterCalls commonAlone).register (greedy "late" 2)).1, {}⟩ : Scanner).scan
    (.ofHostPort "h" 80)).run transport []

def answersAll : Transport := fun _ _ => .ok []

/-- Fails the first exchange and answers all later ones. -/
def failsOnce : Transport := fun history _ =>
  if history.isEmpty then .error (.timeout "no reply") else .ok []

theorem scanBefore_eq (transport : Transport) : scanBefore transport =
    ((⟨.afterCalls commonAlone, {}⟩ : Scanner).walk (.ofHostPort "h" 80) [greedy "common" 1]).run
      transport [] := by
  have hEligible : (⟨.afterCalls commonAlone, {}⟩ : Scanner).candidates 80 = [greedy "common" 1] :=
    (candidates_eq_eligible (Registry.consistent_afterCalls _) 80).trans rfl
  have hPort : (Target.ofHostPort "h" 80).port = 80 := rfl
  have hOpen : (⟨.afterCalls commonAlone, {}⟩ : Scanner).refuses 80 = false := rfl
  rw [scanBefore, scan, hPort, hOpen, hEligible]
  rfl

theorem registered_probe_is_sent_after_failure :
    "late" ∉ (Registry.afterCalls commonAlone).names ∧
      (∀ q ∈ (Registry.afterCalls commonAlone).probes, "late" ∉ q.fallback) ∧
      ((scanBefore answersAll).2 = some { probe := "common", service := "common" } ∧
        scanAfter answersAll = scanBefore answersAll) ∧
      (scanBefore failsOnce).1.length = 1 ∧ (scanBefore failsOnce).2 = none ∧
        (scanAfter failsOnce).1 =
          (scanBefore failsOnce).1 ++ [request (greedy "late" 2) (.ofHostPort "h" 80)] ∧
        (scanAfter failsOnce).2 = some { probe := "late", service := "late" } := by
  have hProbes : (Registry.afterCalls commonAlone).probes = [greedy "common" 1] := rfl
  have hNew : (greedy "late" 2).name ∉ (Registry.afterCalls commonAlone).names := by decide
  have hUnlisted : ∀ q ∈ (Registry.afterCalls commonAlone).probes,
      (greedy "late" 2).name ∉ q.fallback := by
    rw [hProbes]
    decide
  have hAppended (transport : Transport) := registered_probe_is_sent_last commonAlone (greedy "late" 2)
    {} (.ofHostPort "h" 80) transport [] hNew hUnlisted
  have hFound : scanBefore answersAll = ([request (greedy "common" 1) (.ofHostPort "h" 80)],
      some { probe := "common", service := "common" }) := by
    rw [scanBefore_eq]
    decide +kernel
  have hMissed : scanBefore failsOnce = ([request (greedy "common" 1) (.ofHostPort "h" 80)], none) := by
    rw [scanBefore_eq]
    rfl
  have hReached : (greedy "late" 2).appliesTo 80 = true ∧
      (∀ rarity ∈ (greedy "late" 2).rarity, ∀ limit ∈ ({} : ScanOptions).rarityThreshold,
        rarity ≤ limit.toNat) ∧
      ¬ (({} : ScanOptions).honorExclude = true ∧
        (Registry.afterCalls commonAlone).exclude.contains 80 = true) := by
    refine ⟨rfl, ?_, by decide⟩
    rintro _ _ _ ⟨⟩
  obtain ⟨_, hKept, _⟩ := hAppended answersAll
  obtain ⟨_, _, hLater⟩ := hAppended failsOnce
  obtain ⟨hSent, _, hMatched⟩ := hLater (congrArg Prod.snd hMissed)
  refine ⟨hNew, hUnlisted, ⟨congrArg Prod.snd hFound, hKept _ (congrArg Prod.snd hFound)⟩,
    congrArg (·.1.length) hMissed, congrArg Prod.snd hMissed, hSent hReached,
    (hMatched _).mpr ⟨hReached, [], ?_, ?_⟩⟩
  · change failsOnce ([] ++ (scanBefore failsOnce).1) _ = _
    rw [hMissed]
    rfl
  · decide +kernel

end ServiceProbe.Scanner
