import ServiceProbe.Exchange
import ServiceProbe.Progress
import ServiceProbe.Record

/-! # Pools of workers

The targets of a job stand in a queue that several workers share. A worker takes the target in
front, carries its dialogue through one exchange at a time, counts it as done and puts its record to
the collected ones. Each of these is one step, and the steps of different workers may come in any
order. The records are put in the order of their targets in the end. -/

namespace ServiceProbe
set_option autoImplicit false

/-- What the workers meet: the replies to their requests, and the time that each place takes. -/
structure Surroundings where
  transport : Transport
  elapsed : Nat → Duration

inductive Worker where
  | free
  | scanning (place : Nat) (target : Target) (dialogue : Dialogue)
  | counted (place : Nat) (record : Record)
  | ended

structure Pool where
  queue : List (Nat × Target)
  workers : List Worker
  /-- The records with their places, the latest in front. -/
  collected : List (Nat × Record)
  progress : Progress
  /-- The requests made so far, with the places they were made for. -/
  requests : List (Nat × Request)

namespace Pool

def start (targets : List Target) (workers : Nat) (progress : Progress) : Pool where
  queue := targets.zipIdx.map fun (target, place) => (place, target)
  workers := List.replicate workers .free
  collected := []
  progress := progress
  requests := []

def history (p : Pool) : List Request := p.requests.map (·.2)

def setWorker (p : Pool) (i : Nat) (w : Worker) : Pool := { p with workers := p.workers.set i w }

/-- A step of the worker at place `i`. The dialogue that is held for a target may depend on its
place. -/
def step (around : Surroundings) (dialogueOf : Nat → Target → Dialogue) (p : Pool) (i : Nat) : Pool :=
  match p.workers[i]? with
  | none | some .ended => p
  | some .free =>
    match p.queue with
    | [] => p.setWorker i .ended
    | (place, target) :: queue =>
      { p with queue := queue }.setWorker i (.scanning place target (dialogueOf place target))
  | some (.scanning place target (.send request next)) =>
    { p with requests := p.requests ++ [(place, request)] }.setWorker i
      (.scanning place target (next (around.transport p.history request)))
  | some (.scanning place target (.done finger)) =>
    { p with progress := p.progress.record finger.isSome }.setWorker i
      (.counted place ⟨target, finger, around.elapsed place⟩)
  | some (.counted place record) =>
    { p with collected := (place, record) :: p.collected }.setWorker i .free

/-- The pool after the steps of the workers that a schedule names, one after the other. -/
def run (around : Surroundings) (dialogueOf : Nat → Target → Dialogue) (p : Pool)
    (schedule : List Nat) : Pool :=
  schedule.foldl (step around dialogueOf) p

/-- The pool after one worker has carried a target from the queue to the collected records. -/
def serve (around : Surroundings) (dialogueOf : Nat → Target → Dialogue) (p : Pool)
    (entry : Nat × Target) : Pool :=
  let (place, target) := entry
  let (requests, finger) := (dialogueOf place target).run around.transport p.history
  { p with
    queue := p.queue.drop 1
    collected := (place, ⟨target, finger, around.elapsed place⟩) :: p.collected
    progress := p.progress.record finger.isSome
    requests := p.requests ++ requests.map fun request => (place, request) }

/-- The pool after one worker has done all that is queued and every worker has ended. -/
def drain (around : Surroundings) (dialogueOf : Nat → Target → Dialogue) (p : Pool) : Pool :=
  let served := p.queue.foldl (serve around dialogueOf) p
  { served with workers := served.workers.map fun _ => .ended }

/-- The collected records in the order of their places. -/
def records (p : Pool) : List Record :=
  (p.collected.mergeSort fun a b => a.1 ≤ b.1).map (·.2)

end Pool
end ServiceProbe
