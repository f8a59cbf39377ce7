import ServiceProbe.Pool
import ServiceProbe.RateLimit
import ServiceProbe.Scanner

/-! # Orchestrators

An orchestrator keeps a queue of jobs and the records of the jobs that are done. A run takes the job
in front, looks up who identifies its targets, and has a pool of workers do it. A run without a job
does nothing. -/

namespace ServiceProbe
set_option autoImplicit false

/-- Identifies the service behind a target. -/
structure Fingerprinter where
  name : String
  probeCount : Nat := 0
  dialogue : Target → Dialogue

namespace Fingerprinter

def ofScanner (s : Scanner) : Fingerprinter := ⟨"probe scanner", s.registry.size, s.scan⟩

end Fingerprinter

/-- Why a run fails. -/
inductive RunFault where
  | notRegistered (name : String)
  deriving DecidableEq, Repr

namespace RunFault

def message : RunFault → String
  | notRegistered name => "fingerprinter '" ++ name ++ "' not registered"

end RunFault

structure Orchestrator where
  jobs : List Job
  fingerprinters : List (String × Fingerprinter)
  /-- The number of workers that do a job. -/
  concurrency : Nat
  concurrency_pos : 0 < concurrency
  rateLimit : RateLimit
  progress : Progress
  results : List Record

namespace Orchestrator

/-- The name that a run looks up when it is given none. -/
def defaultName : String := "probes"

/-- At least one worker does the jobs. -/
def new (concurrency : Nat) (perSecond : UInt32) : Orchestrator :=
  ⟨[], [], max 1 concurrency, by omega, ⟨perSecond⟩, .zero, []⟩

def ofOptions (options : ScanOptions) : Orchestrator :=
  new options.maxConcurrency.toNat (options.rateLimit.getD 0)

/-- Puts a fingerprinter under a name, in place of one that had it before. -/
def addFingerprinter (o : Orchestrator) (name : String) (f : Fingerprinter) : Orchestrator :=
  { o with fingerprinters := (name, f) :: o.fingerprinters.filter fun entry => entry.1 != name }

def fingerprinter? (o : Orchestrator) (name : Option String) : Except RunFault Fingerprinter :=
  let name := name.getD defaultName
  match o.fingerprinters.lookup name with
  | some f => pure f
  | none => throw (.notRegistered name)

def submit (o : Orchestrator) (job : Job) : Orchestrator := { o with jobs := o.jobs ++ [job] }

/-- Takes the job in front of the queue. -/
def takeJob? (o : Orchestrator) : Option (Job × Orchestrator) :=
  match o.jobs with
  | [] => none
  | job :: jobs => some (job, { o with jobs := jobs })

/-- The pool that begins a job. -/
def poolFor (o : Orchestrator) (job : Job) : Pool :=
  .start job.targets o.concurrency (o.progress.reset job.targets.length)

/-- Takes in what a pool has made of a job. -/
def settle (o : Orchestrator) (p : Pool) : Orchestrator :=
  { o with progress := p.progress, results := o.results ++ p.records }

/-- What came of a run. -/
structure Outcome where
  result : Except RunFault (List Record)
  after : Orchestrator
  requests : List Request

/-- What a run comes to whose job a pool has done. -/
def conclude (o : Orchestrator) (p : Pool) : Outcome := ⟨.ok p.records, o.settle p, p.history⟩

/-- Carries out the job in front of the queue. The job is gone from the queue also when nobody is
registered under the name. -/
def run (o : Orchestrator) (around : Surroundings) (name : Option String) : Outcome :=
  match o.takeJob? with
  | none => ⟨.ok [], o, []⟩
  | some (job, o) =>
    match o.fingerprinter? name with
    | .error fault => ⟨.error fault, o, []⟩
    | .ok f => o.conclude ((o.poolFor job).drain around fun _ => f.dialogue)

end Orchestrator
end ServiceProbe
