import Mathlib.Data.List.Nodup
import ServiceProbe.Proofs.Pool.Stage

/-! # Conservation of targets

However the workers of a pool take turns, every target of the job is at one stage, the stage agrees
with the exchanges that were made for that target, and the progress counts the targets that are
settled. Workers end only when nothing is left in the queue. -/

namespace ServiceProbe
set_option autoImplicit false

variable {around : Surroundings} {dialogueOf : Nat → Target → Dialogue} {targets : List Target}

namespace Stage

theorem Tells.congr {log new : List (Nat × Request)} {place : Nat} {stage : Stage}
    (h : stage.Tells around dialogueOf targets log place)
    (hLog : exchangesAt around.transport new place = exchangesAt around.transport log place) :
    stage.Tells around dialogueOf targets new place := by
  cases stage <;> simpa only [Tells, hLog] using h

end Stage

namespace Pool

def recordsOf (stages : List (Nat × Stage)) : List Record :=
  stages.filterMap fun entry => entry.2.record?

theorem countIdentified_cons (record : Record) (records : List Record) :
    Record.countIdentified (record :: records) =
      Record.countIdentified records + record.finger.isSome.toNat := by
  rw [Record.countIdentified, List.countP_cons, Record.countIdentified, Record.isIdentified]
  cases record.finger.isSome <;> rfl

/-- What holds of a pool that does the targets of a job. -/
structure Tracks (around : Surroundings) (dialogueOf : Nat → Target → Dialogue)
    (targets : List Target) (p : Pool) : Prop where
  places : (p.stages.map Prod.fst).Perm (List.range targets.length)
  tells : ∀ entry ∈ p.stages, entry.2.Tells around dialogueOf targets p.requests entry.1
  progress_eq : p.progress = ⟨targets.length, (recordsOf p.stages).length,
    Record.countIdentified (recordsOf p.stages)⟩

variable {p q : Pool} {place : Nat} {old new : Stage} {rest : List (Nat × Stage)}
  {log : List (Nat × Request)} {progress : Progress}

theorem Tracks.of_perm (h : Tracks around dialogueOf targets p) (hStages : q.stages.Perm p.stages)
    (hRequests : q.requests = p.requests) (hProgress : q.progress = p.progress) :
    Tracks around dialogueOf targets q where
  places := (hStages.map Prod.fst).trans h.places
  tells entry hEntry := hRequests ▸ h.tells entry (hStages.mem_iff.mp hEntry)
  progress_eq := by
    have hRecords := hStages.filterMap fun entry => entry.2.record?
    rw [hProgress, h.progress_eq, recordsOf, recordsOf, hRecords.length_eq, Record.countIdentified,
      Record.countIdentified, hRecords.countP_eq]

theorem Advances.exchangesAt_of_ne (h : Advances around dialogueOf p place old new log progress)
    {other : Nat} (hOther : other ≠ place) :
    exchangesAt around.transport log other = exchangesAt around.transport p.requests other := by
  cases h with
  | take | count => rfl
  | ask target request next => exact exchangesAt_concat_of_ne _ _ _ _ hOther.symm

theorem Advances.tells (h : Advances around dialogueOf p place old new log progress)
    (hOld : old.Tells around dialogueOf targets p.requests place) :
    new.Tells around dialogueOf targets log place := by
  cases h with
  | take target =>
    obtain ⟨hTarget, hNone⟩ := hOld
    exact ⟨hTarget, hNone ▸ .here _⟩
  | ask target request next =>
    obtain ⟨hTarget, hLeads⟩ := hOld
    refine ⟨hTarget, ?_⟩
    rw [exchangesAt_concat]
    exact hLeads.concat _
  | count target finger =>
    obtain ⟨hTarget, hLeads⟩ := hOld
    exact ⟨hTarget, hLeads, rfl⟩

theorem Advances.progress_eq (h : Advances around dialogueOf p place old new log progress)
    (hProgress : p.progress = ⟨targets.length, (recordsOf ((place, old) :: rest)).length,
      Record.countIdentified (recordsOf ((place, old) :: rest))⟩) :
    progress = ⟨targets.length, (recordsOf ((place, new) :: rest)).length,
      Record.countIdentified (recordsOf ((place, new) :: rest))⟩ := by
  cases h with
  | take | ask => exact hProgress
  | count target finger =>
    have hSettled : recordsOf ((place, .settled ⟨target, finger, around.elapsed place⟩) :: rest) =
        ⟨target, finger, around.elapsed place⟩ :: recordsOf rest := rfl
    rw [Progress.record_eq, hProgress, hSettled, countIdentified_cons]
    rfl

theorem Tracks.advance (h : Tracks around dialogueOf targets p)
    (hAdvances : Advances around dialogueOf p place old new q.requests q.progress)
    (hOld : p.stages.Perm ((place, old) :: rest)) (hNew : q.stages.Perm ((place, new) :: rest)) :
    Tracks around dialogueOf targets q where
  places := ((hNew.map Prod.fst).trans (hOld.map Prod.fst).symm).trans h.places
  tells := by
    have hNodup : (((place, old) :: rest).map Prod.fst).Nodup :=
      ((hOld.map Prod.fst).symm.trans h.places).nodup_iff.mpr List.nodup_range
    intro entry hEntry
    rcases List.mem_cons.mp (hNew.mem_iff.mp hEntry) with rfl | hRest
    · exact hAdvances.tells (h.tells _ (hOld.mem_iff.mpr List.mem_cons_self))
    · -- another target has another place, so the log has nothing new for it
      have hNe : entry.1 ≠ place := by
        rintro hSame
        exact (List.nodup_cons.mp hNodup).1 (List.mem_map.mpr ⟨entry, hRest, hSame⟩)
      exact (h.tells entry (hOld.mem_iff.mpr (List.mem_cons_of_mem _ hRest))).congr
        (hAdvances.exchangesAt_of_ne hNe)
  progress_eq := by
    have hOldRecords := hOld.filterMap fun entry => entry.2.record?
    have hNewRecords := hNew.filterMap fun entry => entry.2.record?
    have hProgress := h.progress_eq
    rw [recordsOf, hOldRecords.length_eq, Record.countIdentified, hOldRecords.countP_eq] at hProgress
    rw [recordsOf, hNewRecords.length_eq, Record.countIdentified, hNewRecords.countP_eq]
    exact hAdvances.progress_eq hProgress

theorem Tracks.step (h : Tracks around dialogueOf targets p) (i : Nat) :
    Tracks around dialogueOf targets (p.step around dialogueOf i) := by
  rcases step_cases around dialogueOf p i with
    ⟨hStages, hRequests, hProgress⟩ | ⟨place, old, new, rest, hAdvances, hOld, hNew⟩
  · exact h.of_perm hStages hRequests hProgress
  · exact h.advance hAdvances hOld hNew

theorem tracks_start (workers : Nat) (progress : Progress) :
    Tracks around dialogueOf targets (.start targets workers (progress.reset targets.length)) := by
  have hStages : (start targets workers (progress.reset targets.length)).stages =
      targets.zipIdx.map fun entry => (entry.2, Stage.waiting entry.1) := by
    simp [stages, stagesOf, start, Worker.stage?, List.filterMap_replicate]
  constructor
  · rw [hStages, List.map_map, List.range_eq_range', ← List.zipIdx_map_snd 0 targets]
    exact .refl _
  · intro entry hEntry
    rw [hStages] at hEntry
    obtain ⟨⟨target, place⟩, hTarget, rfl⟩ := List.mem_map.mp hEntry
    exact ⟨List.mem_zipIdx_iff_getElem?.mp hTarget, rfl⟩
  · have hRecords : recordsOf (start targets workers (progress.reset targets.length)).stages = [] := by
      rw [hStages, recordsOf, List.filterMap_map]
      exact List.filterMap_eq_nil_iff.mpr fun _ _ => rfl
    rw [hRecords]
    rfl

/-- No worker has ended before the queue was empty. -/
def EndsLast (p : Pool) : Prop := Worker.ended ∈ p.workers → p.queue = []

theorem EndsLast.setWorker (h : EndsLast p) {i : Nat} {w : Worker} (hEnded : w ≠ .ended)
    (hWorkers : q.workers = p.workers) (hQueue : p.queue = [] → q.queue = []) :
    EndsLast (q.setWorker i w) := by
  intro hMem
  rcases List.mem_or_eq_of_mem_set hMem with hOld | hNew
  · exact hQueue (h (hWorkers ▸ hOld))
  · exact absurd hNew.symm hEnded

theorem EndsLast.step (h : EndsLast p) (i : Nat) : EndsLast (p.step around dialogueOf i) := by
  unfold Pool.step
  split
  · exact h
  · exact h
  · split
    · rename_i hQueue
      exact fun _ => hQueue
    · rename_i hQueue
      exact h.setWorker (by simp) rfl (by simp [hQueue])
  · exact h.setWorker (by simp) rfl id
  · exact h.setWorker (by simp) rfl id
  · exact h.setWorker (by simp) rfl id

theorem length_workers_step (i : Nat) :
    (p.step around dialogueOf i).workers.length = p.workers.length := by
  unfold Pool.step
  split
  all_goals try split
  all_goals simp [setWorker]

theorem Tracks.run (h : Tracks around dialogueOf targets p) (schedule : List Nat) :
    Tracks around dialogueOf targets (p.run around dialogueOf schedule) := by
  induction schedule generalizing p with
  | nil => exact h
  | cons i schedule ih => exact ih (h.step i)

theorem EndsLast.run (h : EndsLast p) (schedule : List Nat) :
    EndsLast (p.run around dialogueOf schedule) := by
  induction schedule generalizing p with
  | nil => exact h
  | cons i schedule ih => exact ih (h.step i)

theorem length_workers_run (p : Pool) (schedule : List Nat) :
    (p.run around dialogueOf schedule).workers.length = p.workers.length := by
  induction schedule generalizing p with
  | nil => rfl
  | cons i schedule ih => exact (ih _).trans (length_workers_step i)

end Pool
end ServiceProbe
