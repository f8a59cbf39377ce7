import ServiceProbe.Proofs.Orchestrator.Clients

/-! # A run that nobody interrupts

Among the orders in which the clients of an orchestrator may take their steps there is one in which a
run goes through without a step of another one in between. It comes to what the run comes to alone,
its counts among the rest. -/

namespace ServiceProbe
set_option autoImplicit false

namespace Running

def workAll (run : Running) (counts : Progress) : List Nat → Running × Progress
  | [] => (run, counts)
  | i :: order => (run.work i).1.workAll (counts.changeAll (run.work i).2) order

theorem workAll_append (run : Running) (counts : Progress) (order more : List Nat) :
    run.workAll counts (order ++ more) =
      (run.workAll counts order).1.workAll (run.workAll counts order).2 more := by
  induction order generalizing run counts with
  | nil => rfl
  | cons i order ih => exact ih _ _

/-- Some steps of a run lead to another state of it and of the counts. -/
def Reaches (run : Running) (counts : Progress) (next : Running) (after : Progress) : Prop :=
  ∃ order, run.workAll counts order = (next, after)

section

variable {run next last : Running} {counts after final : Progress} {i : Nat}

theorem Reaches.refl (run : Running) (counts : Progress) : run.Reaches counts run counts := ⟨[], rfl⟩

theorem Reaches.trans (h : run.Reaches counts next after) (k : next.Reaches after last final) :
    run.Reaches counts last final := by
  obtain ⟨first, hFirst⟩ := h
  obtain ⟨second, hSecond⟩ := k
  refine ⟨first ++ second, ?_⟩
  rw [workAll_append, hFirst, hSecond]

theorem Reaches.of_work {changes : List Progress.Change} (h : run.work i = (next, changes)) :
    run.Reaches counts next (counts.changeAll changes) := by
  refine ⟨[i], ?_⟩
  simp only [workAll, h]

theorem reaches_opened (run : Running) (counts : Progress) :
    run.Reaches counts { run with opening := [] } (counts.changeAll run.opening) := by
  generalize hOpening : run.opening = opening
  induction opening generalizing run counts with
  | nil =>
    have hSame : { run with opening := [] } = run := by rw [← hOpening]
    rw [hSame]
    exact .refl run counts
  | cons change opening ih =>
    exact (Reaches.of_work (work_of_opening hOpening 0)).trans (ih { run with opening := opening } _ rfl)

theorem reaches_paid (hOpening : run.opening = []) {changes : List Progress.Change}
    (hOwed : run.owed[i]? = some changes) (counts : Progress) :
    run.Reaches counts { run with owed := run.owed.set i [] } (counts.changeAll changes) := by
  induction changes generalizing run counts with
  | nil =>
    obtain ⟨hi, hGet⟩ := List.getElem?_eq_some_iff.mp hOwed
    have hSet : run.owed.set i [] = run.owed := by rw [← hGet, List.set_getElem_self]
    rw [hSet]
    exact .refl run counts
  | cons change rest ih =>
    have hi : i < run.owed.length := (List.getElem?_eq_some_iff.mp hOwed).1
    let paying : Running := { run with owed := run.owed.set i rest }
    have hPaying : paying.opening = [] := hOpening
    have hRow : paying.owed[i]? = some rest := List.getElem?_set_self hi
    have hSet : paying.owed.set i [] = run.owed.set i [] := List.set_set ..
    have hRest := ih hPaying hRow (counts.change change)
    rw [hSet] at hRest
    exact (Reaches.of_work (work_of_owed hOpening hOwed)).trans hRest

/-- A worker that owes nothing takes a step of the pool and makes the changes that come with it. -/
theorem reaches_stepped (hOpening : run.opening = [])
    (hOwed : run.owed = List.replicate run.pool.workers.length []) (i : Nat) :
    run.Reaches run.pool.progress
      { run with pool := run.pool.step run.around (fun _ => run.fingerprinter.dialogue) i }
      (run.pool.step run.around (fun _ => run.fingerprinter.dialogue) i).progress := by
  have hNothing : ∀ changes, run.owed[i]? = some changes → changes = [] := by
    intro changes hChanges
    rw [hOwed] at hChanges
    exact (List.mem_replicate.mp (List.mem_of_getElem? hChanges)).2
  refine (Reaches.of_work (work_of_none_owed hOpening hNothing)).trans ?_
  rw [Pool.progress_step]
  by_cases hi : i < run.owed.length
  · have hStepped : (run.stepPool i).opening = [] := hOpening
    have hRow : (run.stepPool i).owed[i]? = some (run.pool.changes i) := List.getElem?_set_self hi
    have hSet : (run.stepPool i).owed.set i [] = run.owed := by
      rw [stepPool, List.set_set, hOwed, List.set_replicate_self]
    have hPaid := reaches_paid hStepped hRow run.pool.progress
    rw [hSet] at hPaid
    exact hPaid
  · have hNone : run.pool.workers[i]? = none := by
      rw [List.getElem?_eq_none_iff]
      rw [hOwed, List.length_replicate] at hi
      omega
    have hChanges : run.pool.changes i = [] := by simp only [Pool.changes, hNone]
    have hSet : run.owed.set i [] = run.owed := List.set_eq_of_length_le (by omega)
    rw [stepPool, hChanges, hSet]
    exact .refl _ _

theorem reaches_run (hOpening : run.opening = [])
    (hOwed : run.owed = List.replicate run.pool.workers.length []) (schedule : List Nat) :
    run.Reaches run.pool.progress
      { run with pool := run.pool.run run.around (fun _ => run.fingerprinter.dialogue) schedule }
      (run.pool.run run.around (fun _ => run.fingerprinter.dialogue) schedule).progress := by
  induction schedule generalizing run with
  | nil => exact .refl _ _
  | cons i schedule ih =>
    let next : Running :=
      { run with pool := run.pool.step run.around (fun _ => run.fingerprinter.dialogue) i }
    have hNext : next.owed = List.replicate next.pool.workers.length [] := by
      rw [Pool.length_workers_step]
      exact hOwed
    have hRest : next.Reaches next.pool.progress _ _ := ih hOpening hNext
    exact (reaches_stepped hOpening hOwed i).trans hRest

end

theorem reaches_of_start (o : Orchestrator) (job : Job) (around : Surroundings) (f : Fingerprinter)
    (schedule : List Nat) :
    (start o job around f).Reaches o.progress
      { start o job around f with
        opening := []
        pool := (o.poolFor job).run around (fun _ => f.dialogue) schedule }
      ((o.poolFor job).run around (fun _ => f.dialogue) schedule).progress := by
  refine ((start o job around f).reaches_opened o.progress).trans ?_
  let opened : Running := { start o job around f with opening := [] }
  have hOwed : opened.owed = List.replicate opened.pool.workers.length [] :=
    congrArg (List.replicate · []) List.length_replicate.symm
  have hRun : opened.Reaches opened.pool.progress _ _ := reaches_run rfl hOwed schedule
  exact hRun

end Running

namespace Clients

def withRun (c : Clients) (run : Running) (counts : Progress) : Clients :=
  { c with
    orchestrator := { c.orchestrator with progress := counts }
    runs := c.runs ++ [run] }

theorem step_withRun (c : Clients) (run : Running) (counts : Progress) (i : Nat) :
    (c.withRun run counts).step (.work c.runs.length i) =
      (c.withRun (run.work i).1 (counts.changeAll (run.work i).2), none) := by
  have hRun : (c.withRun run counts).runs[c.runs.length]? = some run := List.getElem?_concat_length
  have hSet : (c.runs ++ [run]).set c.runs.length (run.work i).1 = c.runs ++ [(run.work i).1] := by
    rw [List.set_append_right _ _ (Nat.le_refl _), Nat.sub_self]
    rfl
  simp only [step, hRun]
  rw [setRun, withRun, hSet]
  rfl

theorem after_withRun (c : Clients) (run : Running) (counts : Progress) (order : List Nat) :
    (c.withRun run counts).after (order.map (.work c.runs.length)) =
        c.withRun (run.workAll counts order).1 (run.workAll counts order).2 ∧
      (c.withRun run counts).answers (order.map (.work c.runs.length)) = [] := by
  induction order generalizing run counts with
  | nil => exact ⟨rfl, rfl⟩
  | cons i order ih =>
    obtain ⟨hAfter, hAnswers⟩ := ih (run.work i).1 (counts.changeAll (run.work i).2)
    rw [List.map_cons, after_cons, answers_cons, step_withRun]
    exact ⟨hAfter, hAnswers⟩

theorem append_withRun {c : Clients} (hFresh : c.runs.length ∉ c.appended) {run : Running}
    (hFinished : run.pool.Finished) (counts : Progress) :
    (c.withRun run counts).step (.append c.runs.length) =
      ((c.withRun run counts).appendRecords c.runs.length run.pool.records,
        some (.ok run.pool.records)) := by
  have hRun : (c.withRun run counts).runs[c.runs.length]? = some run := List.getElem?_concat_length
  simp only [step, hRun]
  exact if_pos ⟨hFinished, hFresh⟩

/-- From any state, a run that nobody interrupts comes to what it comes to alone. -/
theorem exists_uninterrupted (c : Clients) (hFresh : c.runs.length ∉ c.appended)
    (around : Surroundings) {name : Option String} {f : Fingerprinter}
    (hName : c.orchestrator.fingerprinter? name = .ok f) :
    ∃ later, let events := Event.take around name :: later
      (c.after events).orchestrator = (c.orchestrator.run around name).after ∧
        c.answers events = [(c.orchestrator.run around name).result] := by
  cases hJobs : c.orchestrator.jobs with
  | nil =>
    refine ⟨[], ?_⟩
    simp [step, answers, Orchestrator.run, Orchestrator.takeJob?, hJobs]
  | cons job jobs =>
    let o : Orchestrator := { c.orchestrator with jobs := jobs }
    let started : Clients := { c with orchestrator := o }
    have hSame : o.fingerprinter? name = .ok f := hName
    have hFront : c.orchestrator = { o with jobs := job :: o.jobs } := by simp only [o, ← hJobs]
    obtain ⟨schedule, hFinished, hRun⟩ := Orchestrator.run_eq_conclude o job around hSame
    obtain ⟨order, hOrder⟩ := Running.reaches_of_start o job around f schedule
    let last : Running := { Running.start o job around f with
      opening := []
      pool := (o.poolFor job).run around (fun _ => f.dialogue) schedule }
    let works : List Event := order.map (.work c.runs.length)
    have hTake : c.step (.take around name) =
        (started.withRun (.start o job around f) o.progress, none) := step_take hJobs hName around
    obtain ⟨hWorks, hSilent⟩ := started.after_withRun (.start o job around f) o.progress order
    have hAfter : (started.withRun (.start o job around f) o.progress).after works =
        started.withRun last last.pool.progress := by
      rw [hOrder] at hWorks
      exact hWorks
    have hNone : (started.withRun (.start o job around f) o.progress).answers works = [] := hSilent
    have hDone : last.pool.Finished := hFinished
    have hAppend := append_withRun (c := started) hFresh hDone last.pool.progress
    refine ⟨works ++ [.append c.runs.length], ?_⟩
    intro events
    have hEvents : c.after events =
        ((started.withRun last last.pool.progress).step (.append c.runs.length)).1 := by
      rw [after_cons, hTake, after_append, hAfter]
      rfl
    have hGiven : c.answers events =
        ((started.withRun last last.pool.progress).step (.append c.runs.length)).2.toList := by
      rw [answers_cons, hTake, answers_append, hNone, hAfter]
      exact List.append_nil _
    rw [hEvents, hGiven, hFront, hRun]
    exact ⟨congrArg (·.1.orchestrator) hAppend, congrArg (·.2.toList) hAppend⟩

end Clients
end ServiceProbe
