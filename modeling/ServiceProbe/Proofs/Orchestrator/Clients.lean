import ServiceProbe.Proofs.Pool.Completion

/-! # Clients of one orchestrator

Several clients submit jobs and run them at the same time. A run takes its job from the shared queue
in one step. Its own steps, and those of its workers, change at most one of the shared counts each.
It puts its records to the shared results in one step again. The steps of all runs may come in any
order. -/

namespace ServiceProbe
set_option autoImplicit false

instance decidableEnded (w : Worker) : Decidable (w = .ended) :=
  match w with
  | .ended => isTrue rfl
  | .free => isFalse nofun
  | .scanning .. => isFalse nofun
  | .counted .. => isFalse nofun

namespace Pool

instance decidableFinished (p : Pool) : Decidable p.Finished :=
  inferInstanceAs (Decidable (∀ w ∈ p.workers, w = Worker.ended))

/-- The changes of the counts that come with a step of the worker at place `i`. -/
def changes (p : Pool) (i : Nat) : List Progress.Change :=
  match p.workers[i]? with
  | some (.scanning _ _ (.done finger)) => Progress.recordChanges finger.isSome
  | _ => []

theorem progress_step (around : Surroundings) (dialogueOf : Nat → Target → Dialogue) (p : Pool)
    (i : Nat) : (p.step around dialogueOf i).progress = p.progress.changeAll (p.changes i) := by
  cases hWorker : p.workers[i]? with
  | none => simp only [step, changes, hWorker, Progress.changeAll, List.foldl_nil]
  | some w =>
    cases w with
    | free =>
      cases hQueue : p.queue <;>
        simp only [step, changes, hWorker, hQueue, setWorker, Progress.changeAll, List.foldl_nil]
    | scanning place target dialogue =>
      cases dialogue <;>
        simp only [step, changes, hWorker, setWorker, Progress.record, Progress.changeAll,
          List.foldl_nil]
    | counted | ended =>
      simp only [step, changes, hWorker, setWorker, Progress.changeAll, List.foldl_nil]

theorem step_of_finished {p : Pool} (h : p.Finished) (around : Surroundings)
    (dialogueOf : Nat → Target → Dialogue) (i : Nat) : p.step around dialogueOf i = p := by
  cases hWorker : p.workers[i]? with
  | none => simp only [step, hWorker]
  | some w =>
    obtain rfl := h w (List.mem_of_getElem? hWorker)
    simp only [step, hWorker]

end Pool

theorem Orchestrator.poolFor_congr {o other : Orchestrator} (h : other.concurrency = o.concurrency)
    (job : Job) : other.poolFor job = o.poolFor job := by
  rw [poolFor, poolFor, h]
  rfl

/-- A run that has taken its job. -/
structure Running where
  job : Job
  around : Surroundings
  fingerprinter : Fingerprinter
  /-- What is left of the changes that begin the job. -/
  opening : List Progress.Change
  /-- The run's own pool, with the counts that it would have without other runs. -/
  pool : Pool
  /-- What is left, for each worker, of the changes that its last step came with. -/
  owed : List (List Progress.Change)

namespace Running

def start (o : Orchestrator) (job : Job) (around : Surroundings) (f : Fingerprinter) : Running where
  job := job
  around := around
  fingerprinter := f
  opening := Progress.resetChanges job.targets.length
  pool := o.poolFor job
  owed := List.replicate o.concurrency []

def stepPool (run : Running) (i : Nat) : Running :=
  { run with
    pool := run.pool.step run.around (fun _ => run.fingerprinter.dialogue) i
    owed := run.owed.set i (run.pool.changes i) }

/-- The next step of the run, by the worker at place `i` once the workers are there. Gives the change
of the shared counts that the step is. -/
def work (run : Running) (i : Nat) : Running × List Progress.Change :=
  match run.opening with
  | change :: opening => ({ run with opening := opening }, [change])
  | [] =>
    match run.owed[i]? with
    | some (change :: rest) => ({ run with owed := run.owed.set i rest }, [change])
    | _ => (run.stepPool i, [])

/-- What a step of a run can be. -/
inductive Works (run : Running) (i : Nat) : Running → List Progress.Change → Prop where
  | opening (change : Progress.Change) (opening : List Progress.Change)
      (hOpening : run.opening = change :: opening) :
      Works run i { run with opening := opening } [change]
  | pay (change : Progress.Change) (rest : List Progress.Change) (hOpening : run.opening = [])
      (hOwed : run.owed[i]? = some (change :: rest)) :
      Works run i { run with owed := run.owed.set i rest } [change]
  | pool (hOpening : run.opening = []) (hOwed : ∀ changes, run.owed[i]? = some changes → changes = []) :
      Works run i (run.stepPool i) []

theorem work_of_opening {run : Running} {change : Progress.Change} {opening : List Progress.Change}
    (hOpening : run.opening = change :: opening) (i : Nat) :
    run.work i = ({ run with opening := opening }, [change]) := by
  simp only [work, hOpening]

theorem work_of_owed {run : Running} (hOpening : run.opening = []) {i : Nat}
    {change : Progress.Change} {rest : List Progress.Change}
    (hOwed : run.owed[i]? = some (change :: rest)) :
    run.work i = ({ run with owed := run.owed.set i rest }, [change]) := by
  simp only [work, hOpening, hOwed]

theorem work_of_none_owed {run : Running} (hOpening : run.opening = []) {i : Nat}
    (hOwed : ∀ changes, run.owed[i]? = some changes → changes = []) :
    run.work i = (run.stepPool i, []) := by
  unfold work
  rw [hOpening]
  cases hChanges : run.owed[i]? with
  | none => rfl
  | some changes => rw [hOwed changes hChanges]

theorem works_work (run : Running) (i : Nat) : run.Works i (run.work i).1 (run.work i).2 := by
  cases hOpening : run.opening with
  | cons change opening =>
    rw [work_of_opening hOpening]
    exact .opening change opening hOpening
  | nil =>
    by_cases hSome : ∃ change rest, run.owed[i]? = some (change :: rest)
    · obtain ⟨change, rest, hOwed⟩ := hSome
      rw [work_of_owed hOpening hOwed]
      exact .pay change rest hOpening hOwed
    · have hNone : ∀ changes, run.owed[i]? = some changes → changes = [] := by
        intro changes hChanges
        cases changes with
        | nil => rfl
        | cons change rest => exact absurd ⟨change, rest, hChanges⟩ hSome
      rw [work_of_none_owed hOpening hNone]
      exact .pool hOpening hNone

/-- Whether a pool that does the run's job alone can come to the run's pool. -/
def Traced (o : Orchestrator) (run : Running) : Prop :=
  ∃ schedule, (o.poolFor run.job).run run.around (fun _ => run.fingerprinter.dialogue) schedule =
    run.pool

variable {o : Orchestrator} {run next : Running} {i : Nat} {changes : List Progress.Change}

theorem traced_start {other : Orchestrator} (h : other.concurrency = o.concurrency) (job : Job)
    (around : Surroundings) (f : Fingerprinter) : (start other job around f).Traced o :=
  ⟨[], (Orchestrator.poolFor_congr h job).symm⟩

theorem Traced.works (h : run.Traced o) (hWorks : run.Works i next changes) : next.Traced o := by
  cases hWorks with
  | opening | pay => exact h
  | pool =>
    obtain ⟨schedule, hSchedule⟩ := h
    refine ⟨schedule ++ [i], ?_⟩
    rw [stepPool, ← hSchedule]
    exact List.foldl_append

theorem Works.job_eq (h : run.Works i next changes) : next.job = run.job := by
  cases h <;> rfl

theorem Works.pool_of_finished (h : run.Works i next changes) (hFinished : run.pool.Finished) :
    next.pool = run.pool := by
  cases h with
  | opening | pay => rfl
  | pool => exact Pool.step_of_finished hFinished ..

end Running

inductive Event where
  | submit (job : Job)
  | take (around : Surroundings) (name : Option String)
  | work (run worker : Nat)
  | append (run : Nat)

/-- An orchestrator, the runs in the order in which they took their jobs, and those that have put
their records to the results, in the order in which they did. -/
structure Clients where
  orchestrator : Orchestrator
  runs : List Running
  appended : List Nat

/-- What a run gives back. -/
abbrev Answer := Except RunFault (List Record)

namespace Clients

def start (o : Orchestrator) : Clients := ⟨o, [], []⟩

/-- A run has taken a job, and `o` is what is left of the orchestrator. -/
def startRun (c : Clients) (o : Orchestrator) (job : Job) (around : Surroundings)
    (f : Fingerprinter) : Clients :=
  { c with
    orchestrator := o
    runs := c.runs ++ [.start o job around f] }

def setRun (c : Clients) (r : Nat) (next : Running) (changes : List Progress.Change) : Clients :=
  { c with
    orchestrator := { c.orchestrator with progress := c.orchestrator.progress.changeAll changes }
    runs := c.runs.set r next }

def appendRecords (c : Clients) (r : Nat) (records : List Record) : Clients :=
  { c with
    orchestrator := { c.orchestrator with results := c.orchestrator.results ++ records }
    appended := c.appended ++ [r] }

def step (c : Clients) : Event → Clients × Option Answer
  | .submit job => ({ c with orchestrator := c.orchestrator.submit job }, none)
  | .take around name =>
    match c.orchestrator.takeJob? with
    | none => (c, some (.ok []))
    | some (job, o) =>
      match o.fingerprinter? name with
      | .error fault => ({ c with orchestrator := o }, some (.error fault))
      | .ok f => (c.startRun o job around f, none)
  | .work r i =>
    match c.runs[r]? with
    | none => (c, none)
    | some run => (c.setRun r (run.work i).1 (run.work i).2, none)
  | .append r =>
    match c.runs[r]? with
    | none => (c, none)
    | some run =>
      if run.pool.Finished ∧ r ∉ c.appended then
        (c.appendRecords r run.pool.records, some (.ok run.pool.records))
      else (c, none)

def after (c : Clients) (events : List Event) : Clients := events.foldl (fun c e => (c.step e).1) c

@[simp] theorem after_nil (c : Clients) : c.after [] = c := rfl

@[simp] theorem after_cons (c : Clients) (e : Event) (events : List Event) :
    c.after (e :: events) = (c.step e).1.after events := rfl

@[simp] theorem after_append (c : Clients) (events more : List Event) :
    c.after (events ++ more) = (c.after events).after more := List.foldl_append

/-- The answers of the runs that return during some events, in their order. -/
def answers : Clients → List Event → List Answer
  | _, [] => []
  | c, e :: events => (c.step e).2.toList ++ answers (c.step e).1 events

theorem answers_cons (c : Clients) (e : Event) (events : List Event) :
    c.answers (e :: events) = (c.step e).2.toList ++ (c.step e).1.answers events := rfl

theorem answers_append (c : Clients) (events more : List Event) :
    c.answers (events ++ more) = c.answers events ++ (c.after events).answers more := by
  induction events generalizing c with
  | nil => rfl
  | cons e events ih =>
    rw [List.cons_append, answers_cons, ih, answers_cons, List.append_assoc]
    rfl

theorem step_take {c : Clients} {job : Job} {jobs : List Job} {name : Option String}
    {f : Fingerprinter} (hJobs : c.orchestrator.jobs = job :: jobs)
    (hName : c.orchestrator.fingerprinter? name = .ok f) (around : Surroundings) :
    c.step (.take around name) =
      (c.startRun { c.orchestrator with jobs := jobs } job around f, none) := by
  have hSame : Orchestrator.fingerprinter? { c.orchestrator with jobs := jobs } name = .ok f := hName
  simp only [step, Orchestrator.takeJob?, hJobs, hSame]

/-- What an event can do to the state, and the answer that comes of it. -/
inductive Moves (c : Clients) : Event → Clients → Option Answer → Prop where
  | submit (job : Job) :
      Moves c (.submit job) { c with orchestrator := c.orchestrator.submit job } none
  | findNone (around : Surroundings) (name : Option String) (hJobs : c.orchestrator.jobs = []) :
      Moves c (.take around name) c (some (.ok []))
  | lose (around : Surroundings) (name : Option String) (job : Job) (jobs : List Job)
      (fault : RunFault) (hJobs : c.orchestrator.jobs = job :: jobs)
      (hName : c.orchestrator.fingerprinter? name = .error fault) :
      Moves c (.take around name) { c with orchestrator := { c.orchestrator with jobs := jobs } }
        (some (.error fault))
  | take (around : Surroundings) (name : Option String) (job : Job) (jobs : List Job)
      (f : Fingerprinter) (hJobs : c.orchestrator.jobs = job :: jobs)
      (hName : c.orchestrator.fingerprinter? name = .ok f) :
      Moves c (.take around name)
        (c.startRun { c.orchestrator with jobs := jobs } job around f) none
  | missing (r i : Nat) : Moves c (.work r i) c none
  | work (r i : Nat) (run next : Running) (changes : List Progress.Change)
      (hRun : c.runs[r]? = some run) (hWorks : run.Works i next changes) :
      Moves c (.work r i) (c.setRun r next changes) none
  | refuse (r : Nat) : Moves c (.append r) c none
  | append (r : Nat) (run : Running) (hRun : c.runs[r]? = some run) (hFinished : run.pool.Finished)
      (hNew : r ∉ c.appended) :
      Moves c (.append r) (c.appendRecords r run.pool.records) (some (.ok run.pool.records))

theorem moves_step (c : Clients) (e : Event) : c.Moves e (c.step e).1 (c.step e).2 := by
  cases e with
  | submit job => exact .submit job
  | take around name =>
    cases hJobs : c.orchestrator.jobs with
    | nil =>
      have hStep : c.step (.take around name) = (c, some (.ok [])) := by
        simp only [step, Orchestrator.takeJob?, hJobs]
      rw [hStep]
      exact .findNone around name hJobs
    | cons job jobs =>
      cases hName : c.orchestrator.fingerprinter? name with
      | error fault =>
        have hSame : Orchestrator.fingerprinter? { c.orchestrator with jobs := jobs } name =
            .error fault := hName
        have hStep : c.step (.take around name) =
            ({ c with orchestrator := { c.orchestrator with jobs := jobs } },
              some (.error fault)) := by
          simp only [step, Orchestrator.takeJob?, hJobs, hSame]
        rw [hStep]
        exact .lose around name job jobs fault hJobs hName
      | ok f =>
        rw [step_take hJobs hName]
        exact .take around name job jobs f hJobs hName
  | work r i =>
    cases hRun : c.runs[r]? with
    | none =>
      have hStep : c.step (.work r i) = (c, none) := by simp only [step, hRun]
      rw [hStep]
      exact .missing r i
    | some run =>
      simp only [step, hRun]
      exact .work r i run _ _ hRun (run.works_work i)
  | append r =>
    cases hRun : c.runs[r]? with
    | none =>
      have hStep : c.step (.append r) = (c, none) := by simp only [step, hRun]
      rw [hStep]
      exact .refuse r
    | some run =>
      simp only [step, hRun]
      split
      · rename_i hReady
        exact .append r run hRun hReady.1 hReady.2
      · exact .refuse r

end Clients
end ServiceProbe
