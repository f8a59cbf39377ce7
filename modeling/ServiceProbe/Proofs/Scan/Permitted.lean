import ServiceProbe.Proofs.Database.Outcome
import ServiceProbe.Proofs.Pool.Log
import ServiceProbe.Proofs.Scan.Reference

/-! # Requests that a scan may make

However far the scan of a target has come, it has sent the first few of the probes that the port may
get, each once. Workers that scan the targets of a job side by side share one log, and the log holds
nothing but such requests. -/

namespace ServiceProbe
set_option autoImplicit false

namespace Scanner

def permitted (s : Scanner) (port : Port) : List Probe :=
  if s.refuses port then [] else s.candidates port

variable {s : Scanner} {target : Target} {exchanges : List (Request × Reply)} {d : Dialogue}

theorem requests_of_leads_walk {ps : List Probe} (h : (s.walk target ps).Leads exchanges d) :
    ∃ sent, sent <+: ps ∧ exchanges.map Prod.fst = requests target sent := by
  induction ps generalizing exchanges with
  | nil =>
    cases h with
    | here => exact ⟨[], List.prefix_refl [], rfl⟩
  | cons p ps ih =>
    cases h with
    | here => exact ⟨[], List.nil_prefix, rfl⟩
    | @send request next reply exchanges d h =>
      cases hFinger : s.matchReply p reply with
      | some finger =>
        simp only [hFinger] at h
        cases h with
        | here => exact ⟨[p], by simp, rfl⟩
      | none =>
        simp only [hFinger] at h
        obtain ⟨sent, hPrefix, hSent⟩ := ih h
        refine ⟨p :: sent, List.cons_prefix_cons.mpr ⟨rfl, hPrefix⟩, ?_⟩
        rw [List.map_cons, hSent, requests_cons]

theorem requests_of_leads_scan (h : (s.scan target).Leads exchanges d) :
    ∃ sent, sent <+: s.permitted target.port ∧ exchanges.map Prod.fst = requests target sent := by
  unfold scan at h
  unfold permitted
  split at h
  · rename_i hRefused
    rw [if_pos hRefused]
    cases h with
    | here => exact ⟨[], List.prefix_refl [], rfl⟩
  · rename_i hOpen
    rw [if_neg hOpen]
    exact requests_of_leads_walk h

theorem mem_eligible_iff {port : Port} {p : Probe} :
    p ∈ s.eligible port ↔ p ∈ s.registry.probes ∧ p.appliesTo port = true ∧
      ∀ rarity limit, p.rarity = some rarity → s.options.rarityThreshold = some limit →
        rarity ≤ limit.toNat := by
  simp only [eligible, List.mem_filter, Bool.and_eq_true, Option.all_eq_true, decide_eq_true_eq]
  exact and_congr_right fun _ => and_congr_right fun _ => forall_congr' fun _ => forall_comm

theorem permitted_of_consistent (h : s.registry.Consistent) (port : Port) :
    s.permitted port = if s.refuses port then [] else s.eligible port := by
  rw [permitted, candidates_eq_eligible h]

theorem permitted_sublist (h : s.registry.Consistent) (port : Port) :
    (s.permitted port).Sublist s.registry.probes := by
  rw [permitted_of_consistent h]
  split
  · exact List.nil_sublist _
  · exact List.filter_sublist

theorem exclude_of_mem_permitted {port : Port} {p : Probe} (h : p ∈ s.permitted port)
    (hHonor : s.options.honorExclude = true) : s.registry.exclude.contains port = false := by
  unfold permitted at h
  split at h
  · cases h
  · rename_i hOpen
    simpa [refuses, hHonor, Registry.isExcluded] using hOpen

theorem mem_eligible_of_mem_permitted (hConsistent : s.registry.Consistent) {port : Port}
    {p : Probe} (h : p ∈ s.permitted port) : p ∈ s.eligible port := by
  rw [permitted_of_consistent hConsistent] at h
  split at h
  · cases h
  · exact h

end Scanner

namespace Orchestrator

/-- What the log of a pool holds at any moment while it scans the targets of a job. -/
theorem log_permitted (database : Text) (r : Registry) (hLoad : Registry.parse database = .ok r)
    (options : ScanOptions) (o : Orchestrator) (job : Job) (around : Surroundings)
    (schedule : List Nat) :
    let f := Fingerprinter.ofScanner ⟨r, options⟩
    let p := (o.poolFor job).run around (fun _ => f.dialogue) schedule
    (∀ place request, (place, request) ∈ p.requests →
        ∃ target probe, job.targets[place]? = some target ∧ request.address = target.address ∧
          (options.honorExclude = true → r.exclude.contains target.port = false) ∧
          probe ∈ r.probes ∧ probe.appliesTo target.port = true ∧
          (∀ rarity limit, probe.rarity = some rarity → options.rarityThreshold = some limit →
            rarity ≤ limit.toNat) ∧
          request.protocol = probe.protocol ∧ request.payload = probe.payload ∧
          request.totalWait = probe.totalWait ∧ request.tcpWrapped = probe.tcpWrapped) ∧
      (∀ place target, job.targets[place]? = some target → ∃ sent : List Probe,
        (sent.map Probe.name).Nodup ∧ sent.Sublist r.probes ∧
          (p.requests.filter fun entry => entry.1 == place).map Prod.snd =
            sent.map fun probe => Scanner.request probe target) ∧
      ∀ name, o.fingerprinter? name = .ok f → ∃ order,
        (Orchestrator.run { o with jobs := job :: o.jobs } around name).requests =
          ((o.poolFor job).run around (fun _ => f.dialogue) order).history := by
  intro f p
  have hConsistent : r.Consistent := Database.consistent_of_parse hLoad
  let s : Scanner := ⟨r, options⟩
  have hTracks : Pool.Tracks around (fun _ => f.dialogue) job.targets p :=
    (Pool.tracks_start o.concurrency o.progress).run schedule
  have hWithin : Pool.Within job.targets.length p :=
    (Pool.within_start _ _ _).run (Pool.tracks_start o.concurrency o.progress) schedule
  have hSent : ∀ place target, job.targets[place]? = some target → ∃ sent,
      sent <+: s.permitted target.port ∧
        requestsAt p.requests place = Scanner.requests target sent := by
    intro place target hTarget
    obtain ⟨d, hLeads⟩ := hTracks.leads hTarget
    rw [← map_fst_exchangesAt around.transport]
    exact Scanner.requests_of_leads_scan hLeads
  refine ⟨fun place request hRequest => ?_, fun place target hTarget => ?_, fun name hName => ?_⟩
  · have hPlace : place < job.targets.length := hWithin _ hRequest
    have hTarget : job.targets[place]? = some job.targets[place] :=
      List.getElem?_eq_getElem hPlace
    obtain ⟨sent, hPrefix, hRequests⟩ := hSent place _ hTarget
    have hHere : request ∈ requestsAt p.requests place :=
      List.mem_map_of_mem (f := Prod.snd) (List.mem_filter.mpr ⟨hRequest, beq_self_eq_true place⟩)
    rw [hRequests] at hHere
    obtain ⟨probe, hProbe, rfl⟩ := List.mem_map.mp hHere
    have hPermitted := hPrefix.subset hProbe
    obtain ⟨hMem, hApplies, hRarity⟩ :=
      Scanner.mem_eligible_iff.mp (Scanner.mem_eligible_of_mem_permitted hConsistent hPermitted)
    exact ⟨_, probe, hTarget, rfl, Scanner.exclude_of_mem_permitted hPermitted, hMem, hApplies,
      hRarity, rfl, rfl, rfl, rfl⟩
  · obtain ⟨sent, hPrefix, hRequests⟩ := hSent place target hTarget
    have hSublist : sent.Sublist r.probes :=
      hPrefix.sublist.trans (Scanner.permitted_sublist hConsistent target.port)
    have hNames : (r.probes.map Probe.name).Nodup := hConsistent.names_eq ▸ hConsistent.names_nodup
    exact ⟨sent, hNames.sublist (hSublist.map Probe.name), hSublist, hRequests⟩
  · obtain ⟨order, _, hRun⟩ := run_eq_conclude o job around hName
    exact ⟨order, hRun ▸ rfl⟩

def excluding : Text := "Exclude 9100\nProbe TCP A q|x|\nports 80,9100".toList

theorem exists_parse_excluding :
    ∃ r, Registry.parse excluding = .ok r ∧ r.exclude.contains 9100 = true := by
  have hExclusions : Database.exclusions (Database.keptLines excluding) = [" 9100".toList] := by
    decide
  have hBlocks : Database.blocks (Database.keptLines excluding) =
      [["Probe TCP A q|x|".toList, "ports 80,9100".toList]] := by decide
  have hName : ([["Probe TCP A q|x|".toList, "ports 80,9100".toList]].filterMap
      Database.compiled?).map Probe.name = ["A"] := by decide +kernel
  have hParse : ∃ r, Registry.parse excluding = .ok r := by
    rw [Database.exists_parse_iff, hExclusions, hBlocks, hName]
    exact ⟨List.forall_mem_singleton.mpr ⟨_, rfl⟩, List.nodup_singleton _⟩
  obtain ⟨r, hLoad⟩ := hParse
  refine ⟨r, hLoad, ?_⟩
  rw [Database.contains_exclude_of_parse hLoad, hExclusions]
  decide +kernel

theorem log_permitted_of_excluding : ∃ r, Registry.parse excluding = .ok r ∧
    ∀ (around : Surroundings) (schedule : List Nat) (place : Nat) (request : Request),
      (place, request) ∈ (((new 2 0).poolFor
        ⟨0, [.ofHostPort "h" 80, .ofHostPort "h" 9100], .zero⟩).run around
          (fun _ => (Fingerprinter.ofScanner ⟨r, {}⟩).dialogue) schedule).requests →
        place = 0 ∧ request.address = "h:80" := by
  obtain ⟨r, hLoad, hExcluded⟩ := exists_parse_excluding
  refine ⟨r, hLoad, fun around schedule place request hRequest => ?_⟩
  obtain ⟨hLog, _⟩ := log_permitted excluding r hLoad {} (new 2 0)
    ⟨0, [.ofHostPort "h" 80, .ofHostPort "h" 9100], .zero⟩ around schedule
  obtain ⟨target, probe, hTarget, hAddress, hOpen, _⟩ := hLog place request hRequest
  match place with
  | 0 =>
    cases hTarget
    exact ⟨rfl, hAddress.trans rfl⟩
  | 1 =>
    cases hTarget
    exact absurd (hExcluded.symm.trans (hOpen rfl)) (by decide)
  | place + 2 => cases hTarget

end Orchestrator
end ServiceProbe
