import Mathlib.Data.List.Nodup
import ServiceProbe.Orchestrator
import ServiceProbe.Proofs.Pool.Conservation
import ServiceProbe.Proofs.Pool.Drain

/-! # Jobs that are done

When every worker of a pool has ended, the collected records are one for each place of the job, and
sorting them by their places puts them in the order of the job's targets. What a run gives back, adds
to the results and leaves as its progress follows from this for every order of the workers' steps. -/

namespace ServiceProbe
set_option autoImplicit false

namespace Pool

def queued (p : Pool) : List Nat := p.queue.map Prod.fst

def inHand (p : Pool) : List Nat := p.workers.filterMap fun w => w.stage?.map Prod.fst

def filed (p : Pool) : List Nat := p.collected.map Prod.fst

theorem map_fst_stages (p : Pool) : p.stages.map Prod.fst = p.queued ++ p.inHand ++ p.filed := by
  simp [stages, stagesOf, queued, inHand, filed, List.map_filterMap, Function.comp_def]

theorem length_inHand_le (p : Pool) : p.inHand.length ≤ p.workers.length := List.length_filterMap_le _ _

section

variable {around : Surroundings} {dialogueOf : Nat → Target → Dialogue} {targets : List Target}
  {p : Pool}

theorem stages_of_finished (hLast : EndsLast p) (hWorkers : 0 < p.workers.length)
    (h : p.Finished) :
    p.stages = p.collected.map fun (place, record) => (place, Stage.settled record) := by
  have hQueue : p.queue = [] := by
    apply hLast
    have hFirst := List.getElem_mem hWorkers
    exact h _ hFirst ▸ hFirst
  have hHands : p.workers.filterMap Worker.stage? = [] :=
    List.filterMap_eq_nil_iff.mpr fun w hw => by rw [h w hw]; rfl
  rw [stages, stagesOf, hQueue, hHands]
  rfl

theorem pairwise_mergeSort_place {α : Type} (place : α → Nat) (l : List α) :
    (l.mergeSort fun a b => place a ≤ place b).Pairwise fun a b => place a ≤ place b := by
  have hSorted : (l.mergeSort fun a b => place a ≤ place b).Pairwise fun a b =>
      decide (place a ≤ place b) = true :=
    List.pairwise_mergeSort (fun a b c hab hbc => by simp only [decide_eq_true_eq] at *; omega)
      (fun a b => by simp only [Bool.or_eq_true, decide_eq_true_eq]; omega) l
  exact hSorted.imp of_decide_eq_true

theorem map_fst_mergeSort {collected : List (Nat × Record)} {n : Nat}
    (h : (collected.map Prod.fst).Perm (List.range n)) :
    (collected.mergeSort fun a b => a.1 ≤ b.1).map Prod.fst = List.range n := by
  have hPlaces : ((collected.mergeSort fun a b => a.1 ≤ b.1).map Prod.fst).Pairwise (· ≤ ·) :=
    List.pairwise_map.mpr (pairwise_mergeSort_place Prod.fst collected)
  have hRange : (List.range n).Pairwise (· ≤ ·) := List.pairwise_lt_range.imp Nat.le_of_lt
  have hPerm : ((collected.mergeSort fun a b => a.1 ≤ b.1).map Prod.fst).Perm (List.range n) :=
    ((List.mergeSort_perm collected _).map Prod.fst).trans h
  exact hPerm.eq_of_pairwise (fun a b _ _ => Nat.le_antisymm) hPlaces hRange

/-- The record at a place of a finished job is that of the target there, with the finger that the
target's own dialogue came to. -/
theorem Tracks.records_of_finished (h : Tracks around dialogueOf targets p)
    (hStages : p.stages = p.collected.map fun (place, record) => (place, Stage.settled record)) :
    ∃ fingers : Nat → Option Finger,
      (∀ place (hPlace : place < targets.length), (dialogueOf place targets[place]).Leads
        (exchangesAt around.transport p.requests place) (.done (fingers place))) ∧
      p.records = targets.mapIdx fun place target => ⟨target, fingers place, around.elapsed place⟩ := by
  have hPlaces : (p.collected.map Prod.fst).Perm (List.range targets.length) := by
    have hAll := h.places
    rwa [hStages, List.map_map] at hAll
  have hSorted := map_fst_mergeSort hPlaces
  have hLength : p.records.length = targets.length := by
    have hLengths := congrArg List.length hSorted
    rwa [List.length_map, List.length_range, ← List.length_map (f := Prod.snd)] at hLengths
  have hEach : ∀ place (hPlace : place < p.records.length),
      (place, p.records[place]) ∈ p.collected := by
    intro place hPlace
    have hSort : place < (p.collected.mergeSort fun a b => a.1 ≤ b.1).length := by
      rwa [records, List.length_map] at hPlace
    have hFst : (p.collected.mergeSort fun a b => a.1 ≤ b.1)[place].1 = place := by
      have hGet := List.getElem_of_eq hSorted (by rwa [List.length_map])
      rwa [List.getElem_map, List.getElem_range] at hGet
    have hEntry : (place, p.records[place]) =
        (p.collected.mergeSort fun a b => a.1 ≤ b.1)[place] := by
      simp only [records, List.getElem_map]
      exact Prod.ext hFst.symm rfl
    exact (List.mergeSort_perm _ _).mem_iff.mp (hEntry ▸ List.getElem_mem hSort)
  have hTells : ∀ place (hPlace : place < p.records.length),
      (Stage.settled p.records[place]).Tells around dialogueOf targets p.requests place := by
    intro place hPlace
    exact h.tells _ (hStages ▸ List.mem_map_of_mem (hEach place hPlace))
  refine ⟨fun place => p.records[place]?.bind Record.finger, ?_, ?_⟩
  · intro place hPlace
    have hRecord : place < p.records.length := hLength ▸ hPlace
    obtain ⟨hTarget, hLeads, _⟩ := hTells place hRecord
    rw [List.getElem?_eq_getElem hPlace, Option.some.injEq] at hTarget
    simp only [List.getElem?_eq_getElem hRecord, Option.bind_some]
    exact hTarget ▸ hLeads
  · apply List.ext_getElem
    · rw [hLength, List.length_mapIdx]
    · intro place hRecord hPlace
      rw [List.length_mapIdx] at hPlace
      obtain ⟨hTarget, _, hElapsed⟩ := hTells place hRecord
      rw [List.getElem?_eq_getElem hPlace, Option.some.injEq] at hTarget
      simp only [List.getElem_mapIdx, hTarget, List.getElem?_eq_getElem hRecord, Option.bind_some,
        ← hElapsed]

theorem Tracks.progress_of_finished (h : Tracks around dialogueOf targets p)
    (hStages : p.stages = p.collected.map fun (place, record) => (place, Stage.settled record)) :
    p.progress = ⟨targets.length, targets.length, Record.countIdentified p.records⟩ := by
  have hRecords : recordsOf p.stages = p.collected.map Prod.snd := by
    rw [hStages, recordsOf, List.filterMap_map]
    exact congrFun List.filterMap_eq_map p.collected
  have hLength : p.collected.length = targets.length := by
    have hPlaces := h.places.length_eq
    rwa [hStages, List.map_map, List.length_map, List.length_range] at hPlaces
  have hSorted : p.records.Perm (p.collected.map Prod.snd) :=
    (List.mergeSort_perm p.collected _).map Prod.snd
  rw [h.progress_eq, hRecords, List.length_map, hLength, Record.countIdentified,
    Record.countIdentified, hSorted.countP_eq]

end

end Pool

namespace Orchestrator

theorem run_eq_conclude (o : Orchestrator) (job : Job) (around : Surroundings)
    {name : Option String} {f : Fingerprinter} (h : o.fingerprinter? name = .ok f) :
    ∃ schedule, ((o.poolFor job).run around (fun _ => f.dialogue) schedule).Finished ∧
      Orchestrator.run { o with jobs := job :: o.jobs } around name =
        o.conclude ((o.poolFor job).run around (fun _ => f.dialogue) schedule) := by
  have hReaches : Pool.Reaches around (fun _ => f.dialogue) _ _ :=
    Pool.reaches_drain job.targets o.concurrency_pos (o.progress.reset job.targets.length)
  obtain ⟨schedule, hSchedule⟩ := hReaches
  refine ⟨schedule, ?_, ?_⟩
  · rw [poolFor, hSchedule]
    exact Pool.finished_drain _
  · rw [poolFor, hSchedule]
    simp only [run, takeJob?, h, poolFor]

/-- No order of the workers' steps loses, doubles or mixes up targets. -/
theorem pool_conserves_targets (setting : Nat) (perSecond : UInt32) (jobs : List Job)
    (fingerprinters : List (String × Fingerprinter)) (progress : Progress) (results : List Record)
    (job : Job) (around : Surroundings) (dialogueOf : Nat → Target → Dialogue)
    (schedule : List Nat) :
    let o : Orchestrator := { new setting perSecond with jobs, fingerprinters, progress, results }
    let n := job.targets.length
    let p := (o.poolFor job).run around dialogueOf schedule
    (p.queued ++ p.inHand ++ p.filed).Perm (List.range n) ∧ p.inHand.length ≤ max 1 setting ∧
      (p.Finished → ∃ fingers : Nat → Option Finger,
        (∀ place (hPlace : place < n), (dialogueOf place job.targets[place]).Leads
          (exchangesAt around.transport p.requests place) (.done (fingers place))) ∧
        let records := job.targets.mapIdx fun place target =>
          ⟨target, fingers place, around.elapsed place⟩
        (o.conclude p).result = .ok records ∧
          (o.conclude p).after.results = results ++ records ∧
          (o.conclude p).after.progress = ⟨n, n, Record.countIdentified records⟩) ∧
      ∀ name f, o.fingerprinter? name = .ok f → ∃ schedule,
        ((o.poolFor job).run around (fun _ => f.dialogue) schedule).Finished ∧
          Orchestrator.run { o with jobs := job :: jobs } around name =
            o.conclude ((o.poolFor job).run around (fun _ => f.dialogue) schedule) := by
  intro o n p
  have hTracks : Pool.Tracks around dialogueOf job.targets p :=
    (Pool.tracks_start o.concurrency progress).run schedule
  have hLength : p.workers.length = max 1 setting := by
    rw [Pool.length_workers_run]
    exact List.length_replicate
  refine ⟨?_, ?_, ?_, fun name f => run_eq_conclude o job around⟩
  · rw [← Pool.map_fst_stages]
    exact hTracks.places
  · exact hLength ▸ p.length_inHand_le
  · intro hFinished
    have hLast : Pool.EndsLast p := by
      apply Pool.EndsLast.run
      intro hEnded
      cases (List.mem_replicate.mp hEnded).2
    have hStages := Pool.stages_of_finished hLast (by omega) hFinished
    obtain ⟨fingers, hFingers, hRecords⟩ := hTracks.records_of_finished hStages
    refine ⟨fingers, hFingers, ?_, ?_, ?_⟩
    · rw [conclude, hRecords]
    · rw [conclude, settle, hRecords]
    · rw [← hRecords]
      exact hTracks.progress_of_finished hStages

end Orchestrator
end ServiceProbe
