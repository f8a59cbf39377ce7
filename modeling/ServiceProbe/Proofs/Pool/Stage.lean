import Mathlib.Data.List.Basic
import ServiceProbe.Pool
import ServiceProbe.Proofs.Pool.Conversation

/-! # How far the targets of a pool have come

Every target of a job is in one place of the pool: it waits in the queue, a worker has it, or its
record is collected. A step of a worker brings one target on and leaves the others where they are,
whatever the order in which the workers take their steps. -/

namespace ServiceProbe
set_option autoImplicit false

/-- How far a target has come. A record that is counted is settled also while a worker has it. -/
inductive Stage where
  | waiting (target : Target)
  | asking (target : Target) (dialogue : Dialogue)
  | settled (record : Record)

namespace Stage

def record? : Stage → Option Record
  | settled record => some record
  | _ => none

/-- What is known of the target at a place, by the exchanges that were made for it. -/
def Tells (around : Surroundings) (dialogueOf : Nat → Target → Dialogue) (targets : List Target)
    (log : List (Nat × Request)) (place : Nat) : Stage → Prop
  | waiting target => targets[place]? = some target ∧ exchangesAt around.transport log place = []
  | asking target dialogue => targets[place]? = some target ∧
      (dialogueOf place target).Leads (exchangesAt around.transport log place) dialogue
  | settled record => targets[place]? = some record.target ∧
      (dialogueOf place record.target).Leads (exchangesAt around.transport log place)
        (.done record.finger) ∧
      record.elapsed = around.elapsed place

end Stage

def Worker.stage? : Worker → Option (Nat × Stage)
  | scanning place target dialogue => some (place, .asking target dialogue)
  | counted place record => some (place, .settled record)
  | free | ended => none

namespace Pool

/-- The targets by their places, in a queue, with workers and among collected records. -/
def stagesOf (queue : List (Nat × Target)) (workers : List Worker)
    (collected : List (Nat × Record)) : List (Nat × Stage) :=
  queue.map (fun (place, target) => (place, Stage.waiting target)) ++
    workers.filterMap Worker.stage? ++
    collected.map fun (place, record) => (place, Stage.settled record)

def stages (p : Pool) : List (Nat × Stage) := stagesOf p.queue p.workers p.collected

/-- What a step does to the target at a place, with the log and the progress after it. -/
inductive Advances (around : Surroundings) (dialogueOf : Nat → Target → Dialogue) (p : Pool) :
    Nat → Stage → Stage → List (Nat × Request) → Progress → Prop where
  | take (place : Nat) (target : Target) :
      Advances around dialogueOf p place (.waiting target)
        (.asking target (dialogueOf place target)) p.requests p.progress
  | ask (place : Nat) (target : Target) (request : Request) (next : Reply → Dialogue) :
      Advances around dialogueOf p place (.asking target (.send request next))
        (.asking target (next (around.transport p.history request)))
        (p.requests ++ [(place, request)]) p.progress
  | count (place : Nat) (target : Target) (finger : Option Finger) :
      Advances around dialogueOf p place (.asking target (.done finger))
        (.settled ⟨target, finger, around.elapsed place⟩) p.requests
        (p.progress.record finger.isSome)

theorem exists_set {α : Type} {ws : List α} {i : Nat} {w : α} (h : ws[i]? = some w) :
    ∃ before after, ws = before ++ w :: after ∧ ∀ new, ws.set i new = before ++ new :: after := by
  obtain ⟨hi, rfl⟩ := List.getElem?_eq_some_iff.mp h
  refine ⟨ws.take i, ws.drop (i + 1), ?_, fun new => List.set_eq_take_append_cons_drop.trans (if_pos hi)⟩
  rw [List.getElem_cons_drop, List.take_append_drop]

theorem stagesOf_perm_worker (queue : List (Nat × Target)) (before after : List Worker) (w : Worker)
    (collected : List (Nat × Record)) :
    (stagesOf queue (before ++ w :: after) collected).Perm
      (w.stage?.toList ++ stagesOf queue (before ++ after) collected) := by
  have hHands : ((before ++ w :: after).filterMap Worker.stage?).Perm
      (w.stage?.toList ++ (before ++ after).filterMap Worker.stage?) := by
    refine (List.perm_middle.filterMap _).trans ?_
    rw [List.filterMap_cons]
    cases w.stage? <;> exact List.Perm.refl _
  refine ((hHands.append_left _).append_right _).trans ?_
  unfold stagesOf
  rw [← List.append_assoc, ← List.append_assoc, ← List.append_assoc]
  exact (List.perm_append_comm.append_right _).append_right _

theorem stagesOf_perm_collected (queue : List (Nat × Target)) (ws : List Worker) (place : Nat)
    (record : Record) (collected : List (Nat × Record)) :
    (stagesOf queue ws ((place, record) :: collected)).Perm
      ((place, .settled record) :: stagesOf queue ws collected) :=
  List.perm_middle

section

variable (around : Surroundings) (dialogueOf : Nat → Target → Dialogue)

/-- A step brings one target on, or only shifts targets about that stay at their stage. -/
theorem step_cases (p : Pool) (i : Nat) :
    ((step around dialogueOf p i).stages.Perm p.stages ∧
        (step around dialogueOf p i).requests = p.requests ∧
        (step around dialogueOf p i).progress = p.progress) ∨
      ∃ place old new rest, Advances around dialogueOf p place old new
          (step around dialogueOf p i).requests (step around dialogueOf p i).progress ∧
        p.stages.Perm ((place, old) :: rest) ∧
        (step around dialogueOf p i).stages.Perm ((place, new) :: rest) := by
  cases hWorker : p.workers[i]? with
  | none =>
    have hStep : step around dialogueOf p i = p := by simp only [step, hWorker]
    rw [hStep]
    exact .inl ⟨.refl _, rfl, rfl⟩
  | some w =>
    obtain ⟨before, after, hOld, hNew⟩ := exists_set hWorker
    have hStages : p.stages.Perm
        (w.stage?.toList ++ stagesOf p.queue (before ++ after) p.collected) := by
      rw [stages, hOld]
      exact stagesOf_perm_worker ..
    have hSet : ∀ (q : Pool) (new : Worker), q.workers = p.workers →
        (q.setWorker i new).stages.Perm
          (new.stage?.toList ++ stagesOf q.queue (before ++ after) q.collected) := by
      intro q new hWorkers
      rw [stages, setWorker, hWorkers, hNew]
      exact stagesOf_perm_worker ..
    cases w with
    | ended =>
      have hStep : step around dialogueOf p i = p := by simp only [step, hWorker]
      rw [hStep]
      exact .inl ⟨.refl _, rfl, rfl⟩
    | free =>
      cases hQueue : p.queue with
      | nil =>
        have hStep : step around dialogueOf p i = p.setWorker i .ended := by
          simp only [step, hWorker, hQueue]
        rw [hStep]
        exact .inl ⟨(hSet p .ended rfl).trans hStages.symm, rfl, rfl⟩
      | cons entry queue =>
        obtain ⟨place, target⟩ := entry
        have hStep : step around dialogueOf p i = { p with queue := queue }.setWorker i
            (.scanning place target (dialogueOf place target)) := by
          simp only [step, hWorker, hQueue]
        rw [hStep]
        rw [hQueue] at hStages
        exact .inr ⟨place, _, _, _, .take place target, hStages, hSet { p with queue := queue } _ rfl⟩
    | scanning place target dialogue =>
      cases dialogue with
      | send request next =>
        have hStep : step around dialogueOf p i =
            { p with requests := p.requests ++ [(place, request)] }.setWorker i
              (.scanning place target (next (around.transport p.history request))) := by
          simp only [step, hWorker]
        rw [hStep]
        exact .inr ⟨place, _, _, _, .ask place target request next, hStages, hSet _ _ rfl⟩
      | done finger =>
        have hStep : step around dialogueOf p i =
            { p with progress := p.progress.record finger.isSome }.setWorker i
              (.counted place ⟨target, finger, around.elapsed place⟩) := by
          simp only [step, hWorker]
        rw [hStep]
        exact .inr ⟨place, _, _, _, .count place target finger, hStages, hSet _ _ rfl⟩
    | counted place record =>
      have hStep : step around dialogueOf p i =
          { p with collected := (place, record) :: p.collected }.setWorker i .free := by
        simp only [step, hWorker]
      rw [hStep]
      refine .inl ⟨?_, rfl, rfl⟩
      refine (hSet { p with collected := (place, record) :: p.collected } .free rfl).trans ?_
      exact (stagesOf_perm_collected ..).trans hStages.symm

end

end Pool
end ServiceProbe
