import ServiceProbe.Proofs.Expansion.Lists
import ServiceProbe.Proofs.Orchestrator.FailedRun
import ServiceProbe.Proofs.Program.Targets

/-! # What a scan covers

The one job of a scan has a target for every host that discovery keeps and every port, each once and
in order, and its records come in the order of these targets however the workers take their steps. -/

namespace ServiceProbe.Program
set_option autoImplicit false

/-- The hosts that are left: all of them, or those that a round of checks keeps. -/
inductive Survives (hosts : List Address) : Bool → List Address → Prop where
  | all : Survives hosts false hosts
  | checked {checks : List Discovery.Check} (h : Discovery.IsRound hosts checks) :
      Survives hosts true (Discovery.kept checks)

variable {machine : Machine} {a : ScanArguments} {registry : Registry} {ports : PortSet}
  {hosts survivors seen : List Address} {discover : Bool}

theorem Survives.sublist (h : Survives hosts discover survivors) : survivors.Sublist hosts := by
  cases h with
  | all => exact List.Sublist.refl _
  | checked hRound => exact hRound.kept_sublist

theorem survives_hostsToScan (machine : Machine) (discover : Bool) (hosts : List Address) :
    Survives hosts discover (hostsToScan machine discover hosts) := by
  cases discover with
  | false => exact .all
  | true =>
    refine .checked ?_
    rw [Discovery.IsRound, List.map_map]
    exact (List.map_id _).symm ▸ List.Perm.refl _

/-- What is left of the orchestrator of a scan when its job is taken. -/
def emptied (registry : Registry) (options : ScanOptions) : Orchestrator :=
  (Orchestrator.ofOptions options).addFingerprinter Orchestrator.defaultName
    (.ofScanner ⟨registry, options⟩)

theorem takeJob?_prepare (registry : Registry) (options : ScanOptions) (targets : List Target) :
    (prepare registry options targets).takeJob? =
      some (⟨0, targets, .zero⟩, emptied registry options) := rfl

theorem scanRecords_eq_ok (hRegistry : loadRegistry machine a.probes = .ok registry)
    (hHosts : Expansion.expand machine.resolver (Expansion.liftsLimit machine.allowLarge)
      a.targets.toList = .ok hosts)
    (hPorts : Expansion.ports a.ports.toList = .ok ports) :
    ∃ records, scanRecords machine a = .ok records ∧
      records.map Record.target = crossTargets (hostsToScan machine a.discover hosts) ports := by
  have hName : (prepare registry a.options
      (crossTargets (hostsToScan machine a.discover hosts) ports)).fingerprinter? none =
        .ok (.ofScanner ⟨registry, a.options⟩) := rfl
  obtain ⟨records, hRun, hTargets, _⟩ := Orchestrator.run_of_registered hName rfl
  refine ⟨records, ?_, hTargets⟩
  unfold scanRecords
  dsimp only
  rw [hRegistry, hHosts, hPorts]
  exact congrArg (Except.mapError ProgramFault.run) hRun

/-- Each survivor is scanned at each port of the expression once, and reported in order. -/
theorem scan_lists_cross_product (machine : Machine) (a : ScanArguments) (registry : Registry)
    (hosts : List Address) (ports : PortSet)
    (hRegistry : loadRegistry machine a.probes = .ok registry)
    (hHosts : Expansion.expand machine.resolver (Expansion.liftsLimit machine.allowLarge)
      a.targets.toList = .ok hosts)
    (hPorts : Expansion.ports a.ports.toList = .ok ports) :
    (∃ parts, List.Forall₂ (Expansion.StandsFor machine.resolver)
        (Expansion.tokens a.targets.toList) parts ∧
      Expansion.FirstSeen parts.flatten hosts ∧
      ∀ survivors, Survives hosts a.discover survivors → ∃ pairs job o,
        (prepare registry a.options (crossTargets survivors ports)).takeJob? = some (job, o) ∧
          job.targets = pairs.map Target.ofPair ∧
          IsCross parts.flatten survivors a.ports.toList pairs ∧
          (job.targets.map fun target => (target.host, target.port)).Nodup ∧
          (job.targets.map Target.address).Nodup ∧
          ∀ around dialogueOf schedule,
            let p := (o.poolFor job).run around dialogueOf schedule
            p.Finished → ∃ records, (o.conclude p).result = .ok records ∧
              records.map Record.target = job.targets) ∧
      Survives hosts a.discover (hostsToScan machine a.discover hosts) ∧
      ∃ records, scanRecords machine a = .ok records ∧
        records.map Record.target = crossTargets (hostsToScan machine a.discover hosts) ports := by
  refine ⟨?_, survives_hostsToScan .., scanRecords_eq_ok hRegistry hHosts hPorts⟩
  obtain ⟨_, parts, hStand, hSeen⟩ := Expansion.expand_eq_ok_iff.mp hHosts
  refine ⟨parts, hStand, hSeen, fun survivors hSurvive => ?_⟩
  have hOrder := hSeen.ordered.sublist hSurvive.sublist
  have hCross := isCross_flatMap hPorts hOrder
  have hTargets := crossTargets_eq survivors ports
  generalize (survivors.flatMap fun a => ports.toList.map (a, ·)) = pairs at hCross hTargets
  refine ⟨pairs, _, _, takeJob?_prepare .., hTargets, hCross, ?_, ?_, ?_⟩
  · rw [hTargets, List.map_map]
    exact hCross.nodup.map Target.hostPort_ofPair_injective
  · rw [hTargets, List.map_map]
    exact hCross.nodup.map Target.address_ofPair_injective
  · intro around dialogueOf schedule p hFinished
    exact ⟨p.records, rfl, Orchestrator.targets_of_finished _ _ around dialogueOf schedule hFinished⟩

/-- A machine without a network and with an empty file of probes. -/
def bare : Machine where
  file _ := .ok []
  allowLarge := none
  resolver _ := .error .unansweredName
  network := .unplugged
  ping _ := false
  elapsed _ := .zero
  duration := .zero

/-- An address that is named on its own and again in a range. -/
def overlapping : ScanArguments where
  targets := "10.0.0.2, 10.0.0.1-10.0.0.2"
  ports := "80,22,80"
  concurrency := none
  rateLimit := 0
  timeout := none
  maxWait := none
  rarity := none
  probes := some "probes"
  discover := false
  noExclude := false
  outputFormat := "csv"
  preset := "balanced"

theorem scan_lists_cross_product_of_overlapping : ∃ records,
    scanRecords bare overlapping = .ok records ∧ records.map Record.target =
      crossTargets [.v4 0x0A000002, .v4 0x0A000001] (.insert (.insert (.insert .empty 80) 22) 80) := by
  have hRegistry : loadRegistry bare overlapping.probes = .ok .empty := rfl
  have hHosts : Expansion.expand bare.resolver (Expansion.liftsLimit bare.allowLarge)
      overlapping.targets.toList = .ok [.v4 0x0A000002, .v4 0x0A000001] := by
    have hParts : (Expansion.tokens overlapping.targets.toList).mapM
        (Expansion.ofToken bare.resolver (Expansion.liftsLimit bare.allowLarge)) =
          .ok [[.v4 0x0A000002], [.v4 0x0A000001, .v4 0x0A000002]] := rfl
    have hSeen : Expansion.FirstSeen [.v4 0x0A000002, .v4 0x0A000001, .v4 0x0A000002]
        [.v4 0x0A000002, .v4 0x0A000001] :=
      ⟨fun a => by simp only [List.mem_cons, List.not_mem_nil]; tauto, by decide⟩
    have hText : ¬ ∀ c ∈ overlapping.targets.toList, Text.isBlank c = true := by
      intro hBlank
      cases hBlank '1' List.mem_cons_self
    rw [Expansion.expand_of_parts hText hParts, if_neg (by decide)]
    exact congrArg Except.ok (Expansion.unique_eq_iff.mpr hSeen)
  have hPorts : Expansion.ports overlapping.ports.toList =
    .ok (.insert (.insert (.insert .empty 80) 22) 80) := rfl
  exact (scan_lists_cross_product bare overlapping _ _ _ hRegistry hHosts hPorts).2.2

end ServiceProbe.Program
