import ServiceProbe.Proofs.Orchestrator.Alone
import ServiceProbe.Proofs.Orchestrator.FailedRun

/-! # What clients share

Whatever the order of the clients' steps, the jobs of the runs and the jobs that are still queued are
the submitted ones in their order, and the results are the records of whole runs one after the other,
in the order in which the runs returned. -/

namespace ServiceProbe
set_option autoImplicit false

theorem Running.Traced.targets {o : Orchestrator} {run : Running} (h : run.Traced o)
    (hFinished : run.pool.Finished) :
    run.pool.records.map Record.target = run.job.targets := by
  obtain ⟨schedule, hSchedule⟩ := h
  rw [← hSchedule] at hFinished ⊢
  exact o.targets_of_finished run.job run.around _ schedule hFinished

namespace Event

def job? : Event → Option Job
  | submit job => some job
  | _ => none

/-- Whether a run names somebody that the orchestrator knows. -/
def Registered (o : Orchestrator) : Event → Prop
  | take _ name => ∃ f, o.fingerprinter? name = .ok f
  | _ => True

end Event

def Answer.records : Answer → List Record
  | .ok records => records
  | .error _ => []

namespace Clients

def submitted (events : List Event) : List Job := events.filterMap Event.job?

/-- The records that the run at a place has by now. -/
def recordsOf (c : Clients) (r : Nat) : List Record :=
  (c.runs[r]?.map fun run => run.pool.records).getD []

/-- What holds of clients that share an orchestrator, after some jobs were pushed and some answers
given. -/
structure Conserves (o : Orchestrator) (pushed : List Job) (given : List Answer) (c : Clients) :
    Prop where
  fingerprinters_eq : c.orchestrator.fingerprinters = o.fingerprinters
  concurrency_eq : c.orchestrator.concurrency = o.concurrency
  jobs_eq : c.runs.map Running.job ++ c.orchestrator.jobs = pushed
  traced : ∀ run ∈ c.runs, run.Traced o
  appended_nodup : c.appended.Nodup
  finished : ∀ r ∈ c.appended, ∃ run, c.runs[r]? = some run ∧ run.pool.Finished
  results_eq : c.orchestrator.results = o.results ++ c.appended.flatMap c.recordsOf
  given_eq : c.orchestrator.results = o.results ++ given.flatMap Answer.records

theorem conserves_start (o : Orchestrator) : Conserves o o.jobs [] (start o) where
  fingerprinters_eq := rfl
  concurrency_eq := rfl
  jobs_eq := rfl
  traced := List.forall_mem_nil _
  appended_nodup := List.nodup_nil
  finished := List.forall_mem_nil _
  results_eq := (List.append_nil _).symm
  given_eq := (List.append_nil _).symm

section

variable {o : Orchestrator} {pushed : List Job} {given : List Answer} {c : Clients}

theorem Conserves.of_finished (h : Conserves o pushed given c) {d : Clients}
    (hAppended : d.appended = c.appended)
    (hRuns : ∀ (r : Nat) (run : Running), c.runs[r]? = some run → run.pool.Finished →
      ∃ next : Running, d.runs[r]? = some next ∧ next.pool = run.pool) :
    (∀ r ∈ d.appended, ∃ run, d.runs[r]? = some run ∧ run.pool.Finished) ∧
      d.appended.flatMap d.recordsOf = c.appended.flatMap c.recordsOf := by
  rw [hAppended]
  constructor
  · intro r hr
    obtain ⟨run, hRun, hFinished⟩ := h.finished r hr
    obtain ⟨next, hNext, hPool⟩ := hRuns r run hRun hFinished
    exact ⟨next, hNext, hPool ▸ hFinished⟩
  · have hEach : ∀ r ∈ c.appended, d.recordsOf r = c.recordsOf r := by
      intro r hr
      obtain ⟨run, hRun, hFinished⟩ := h.finished r hr
      obtain ⟨next, hNext, hPool⟩ := hRuns r run hRun hFinished
      simp only [recordsOf, hRun, hNext, hPool, Option.map_some]
    exact List.flatMap_congr hEach

theorem Conserves.take (h : Conserves o pushed given c) {job : Job} {jobs : List Job}
    (hJobs : c.orchestrator.jobs = job :: jobs) (around : Surroundings) (f : Fingerprinter) :
    Conserves o pushed given (c.startRun { c.orchestrator with jobs := jobs } job around f) := by
  let d : Clients := c.startRun { c.orchestrator with jobs := jobs } job around f
  have hRuns : ∀ (r : Nat) (run : Running), c.runs[r]? = some run → d.runs[r]? = some run := by
    intro r run hRun
    exact (List.getElem?_append_left (List.getElem?_eq_some_iff.mp hRun).1).trans hRun
  obtain ⟨hFinished, hRecords⟩ :=
    h.of_finished (d := d) rfl fun r run hRun _ => ⟨run, hRuns r run hRun, rfl⟩
  refine { h with jobs_eq := ?_, traced := ?_, finished := hFinished, results_eq := ?_ }
  · rw [startRun, List.map_append, List.append_assoc, ← h.jobs_eq, hJobs]
    rfl
  · intro run hRun
    rcases List.mem_append.mp hRun with hOld | hNew
    · exact h.traced run hOld
    · rw [List.mem_singleton.mp hNew]
      exact Running.traced_start h.concurrency_eq job around f
  · exact h.results_eq.trans (congrArg (o.results ++ ·) hRecords.symm)

theorem Conserves.work (h : Conserves o pushed given c) {r i : Nat} {run next : Running}
    {changes : List Progress.Change} (hRun : c.runs[r]? = some run)
    (hWorks : run.Works i next changes) : Conserves o pushed given (c.setRun r next changes) := by
  have hr : r < c.runs.length := (List.getElem?_eq_some_iff.mp hRun).1
  have hRuns : ∀ (other : Nat) (old : Running), c.runs[other]? = some old → old.pool.Finished →
      ∃ now : Running, (c.setRun r next changes).runs[other]? = some now ∧ now.pool = old.pool := by
    intro other old hOld hDone
    by_cases hSame : other = r
    · subst hSame
      cases hRun.symm.trans hOld
      exact ⟨next, List.getElem?_set_self hr, hWorks.pool_of_finished hDone⟩
    · exact ⟨old, (List.getElem?_set_ne (Ne.symm hSame)).trans hOld, rfl⟩
  obtain ⟨hFinished, hRecords⟩ := h.of_finished (d := c.setRun r next changes) rfl hRuns
  refine { h with jobs_eq := ?_, traced := ?_, finished := hFinished, results_eq := ?_ }
  · have hJob : (c.runs.map Running.job)[r]? = some next.job := by
      rw [List.getElem?_map, hRun, Option.map_some, hWorks.job_eq]
    obtain ⟨_, hGet⟩ := List.getElem?_eq_some_iff.mp hJob
    rw [setRun, List.map_set, ← hGet, List.set_getElem_self]
    exact h.jobs_eq
  · intro other hOther
    rcases List.mem_or_eq_of_mem_set hOther with hOld | rfl
    · exact h.traced other hOld
    · exact (h.traced run (List.mem_of_getElem? hRun)).works hWorks
  · exact h.results_eq.trans (congrArg (o.results ++ ·) hRecords.symm)

theorem Conserves.append (h : Conserves o pushed given c) {r : Nat} {run : Running}
    (hRun : c.runs[r]? = some run) (hFinished : run.pool.Finished) (hNew : r ∉ c.appended) :
    Conserves o pushed (given ++ [.ok run.pool.records]) (c.appendRecords r run.pool.records) where
  fingerprinters_eq := h.fingerprinters_eq
  concurrency_eq := h.concurrency_eq
  jobs_eq := h.jobs_eq
  traced := h.traced
  appended_nodup := by
    rw [appendRecords, ← List.concat_eq_append]
    exact h.appended_nodup.concat hNew
  finished other hOther := by
    rcases List.mem_append.mp hOther with hOld | hLast
    · exact h.finished other hOld
    · rw [List.mem_singleton.mp hLast]
      exact ⟨run, hRun, hFinished⟩
  results_eq := by
    have hLast : c.recordsOf r = run.pool.records := by
      simp only [recordsOf, hRun, Option.map_some, Option.getD_some]
    change c.orchestrator.results ++ run.pool.records =
      o.results ++ (c.appended ++ [r]).flatMap c.recordsOf
    rw [List.flatMap_append, List.flatMap_singleton, hLast, ← List.append_assoc, ← h.results_eq]
  given_eq := by
    change c.orchestrator.results ++ run.pool.records =
      o.results ++ (given ++ [Except.ok run.pool.records]).flatMap Answer.records
    rw [List.flatMap_append, List.flatMap_singleton, ← List.append_assoc, ← h.given_eq]
    rfl

theorem Conserves.moves (h : Conserves o pushed given c) {e : Event} {d : Clients}
    {answer : Option Answer} (hMoves : c.Moves e d answer) (hName : e.Registered o) :
    Conserves o (pushed ++ e.job?.toList) (given ++ answer.toList) d := by
  cases hMoves with
  | submit job =>
    rw [Option.toList_none, List.append_nil]
    refine { h with jobs_eq := ?_ }
    rw [← h.jobs_eq]
    exact (List.append_assoc ..).symm
  | findNone around name hJobs =>
    refine { h with jobs_eq := h.jobs_eq.trans (List.append_nil _).symm, given_eq := ?_ }
    have hNothing : [Except.ok []].flatMap Answer.records = [] := rfl
    rw [Option.toList_some, List.flatMap_append, hNothing, List.append_nil]
    exact h.given_eq
  | lose around name job jobs fault hJobs hFault =>
    obtain ⟨f, hKnown⟩ := hName
    have hSame : c.orchestrator.fingerprinter? name = o.fingerprinter? name := by
      simp only [Orchestrator.fingerprinter?, h.fingerprinters_eq]
    rw [hSame, hKnown] at hFault
    cases hFault
  | take around name job jobs f hJobs _ =>
    simpa only [Event.job?, Option.toList_none, List.append_nil] using h.take hJobs around f
  | work r i run next changes hRun hWorks =>
    simpa only [Event.job?, Option.toList_none, List.append_nil] using h.work hRun hWorks
  | append r run hRun hFinished hNew =>
    simpa only [Event.job?, Option.toList_none, Option.toList_some, List.append_nil] using
      h.append hRun hFinished hNew
  | missing | refuse =>
    simpa only [Event.job?, Option.toList_none, List.append_nil] using h

theorem Conserves.after (h : Conserves o pushed given c) (events : List Event)
    (hNames : ∀ e ∈ events, e.Registered o) :
    Conserves o (pushed ++ submitted events) (given ++ c.answers events) (c.after events) := by
  induction events generalizing pushed given c with
  | nil => simpa only [submitted, List.filterMap_nil, answers, List.append_nil, after_nil] using h
  | cons e events ih =>
    obtain ⟨hName, hNames⟩ := List.forall_mem_cons.mp hNames
    have hRest := ih (h.moves (c.moves_step e) hName) hNames
    have hSubmitted : submitted (e :: events) = e.job?.toList ++ submitted events := by
      rw [submitted, List.filterMap_cons]
      cases e.job? <;> rfl
    rw [hSubmitted, answers_cons, ← List.append_assoc, ← List.append_assoc]
    exact hRest

end

/-- No order of the clients' steps loses, doubles or reorders jobs, or tears the records of a run
apart. A run that nobody interrupts comes to what it comes to alone. -/
theorem jobs_and_results_conserved (o : Orchestrator) (events : List Event)
    (hNames : ∀ e ∈ events, e.Registered o) :
    let c := (start o).after events
    let pushed := o.jobs ++ submitted events
    c.runs.map Running.job ++ c.orchestrator.jobs = pushed ∧
      c.runs.length + c.orchestrator.jobs.length = pushed.length ∧
      (∀ around name, c.orchestrator.jobs = [] →
        c.step (.take around name) = (c, some (.ok []))) ∧
      c.orchestrator.results = o.results ++ c.appended.flatMap c.recordsOf ∧
      c.orchestrator.results = o.results ++ ((start o).answers events).flatMap Answer.records ∧
      c.appended.Nodup ∧
      (∀ r ∈ c.appended, ∃ run, c.runs[r]? = some run ∧ run.pool.Finished ∧
        (c.recordsOf r).map Record.target = run.job.targets) ∧
      ∀ around name f, o.fingerprinter? name = .ok f → ∃ later,
        (c.after (.take around name :: later)).orchestrator =
            (c.orchestrator.run around name).after ∧
          c.answers (.take around name :: later) = [(c.orchestrator.run around name).result] := by
  intro c pushed
  have hConserves : Conserves o pushed ((start o).answers events) c :=
    (conserves_start o).after events hNames
  refine ⟨hConserves.jobs_eq, ?_, ?_, hConserves.results_eq, hConserves.given_eq,
    hConserves.appended_nodup, ?_, ?_⟩
  · rw [← hConserves.jobs_eq, List.length_append, List.length_map]
  · intro around name hJobs
    simp only [step, Orchestrator.takeJob?, hJobs]
  · intro r hr
    obtain ⟨run, hRun, hFinished⟩ := hConserves.finished r hr
    refine ⟨run, hRun, hFinished, ?_⟩
    rw [recordsOf, hRun]
    exact (hConserves.traced run (List.mem_of_getElem? hRun)).targets hFinished
  · intro around name f hName
    have hSame : c.orchestrator.fingerprinter? name = .ok f := by
      rw [← hName]
      simp only [Orchestrator.fingerprinter?, hConserves.fingerprinters_eq]
    apply c.exists_uninterrupted _ around hSame
    intro hFresh
    obtain ⟨run, hRun, _⟩ := hConserves.finished _ hFresh
    exact Nat.lt_irrefl _ (List.getElem?_eq_some_iff.mp hRun).1

/-- An orchestrator with one worker for each run. -/
def attended : Orchestrator :=
  (Orchestrator.new 1 0).addFingerprinter "probes" ⟨"nobody", 0, fun _ => .done none⟩

/-- Two runs take turns, and the one that began last returns first. -/
def overlapping : List Event :=
  [.submit ⟨0, [.ofHostPort "h" 22], .zero⟩, .submit ⟨1, [.ofHostPort "h" 80], .zero⟩,
    .take Orchestrator.unplugged none, .take Orchestrator.unplugged none] ++
  (List.replicate 8 [.work 0 0, .work 1 0]).flatten ++ [.append 1, .append 0]

theorem jobs_and_results_conserved_of_overlapping :
    (∀ e ∈ overlapping, e.Registered attended) ∧
      ((start attended).after overlapping).appended = [1, 0] ∧
      ((start attended).after overlapping).orchestrator.results.map Record.target =
        [.ofHostPort "h" 80, .ofHostPort "h" 22] := by
  have hNames : ∀ e ∈ overlapping, e.Registered attended := by
    have hKnown : ∃ f, attended.fingerprinter? none = .ok f := ⟨_, rfl⟩
    simp [overlapping, Event.Registered, hKnown]
  have hAppended : ((start attended).after overlapping).appended = [1, 0] := by decide
  obtain ⟨hJobs, _, _, hResults, _, _, hRecords, _⟩ :=
    jobs_and_results_conserved attended overlapping hNames
  refine ⟨hNames, hAppended, ?_⟩
  have hNone : ((start attended).after overlapping).orchestrator.jobs = [] := by decide
  have hTaken : ((start attended).after overlapping).runs.map Running.job =
      [⟨0, [.ofHostPort "h" 22], .zero⟩, ⟨1, [.ofHostPort "h" 80], .zero⟩] := by
    rw [hNone, List.append_nil] at hJobs
    exact hJobs
  have hEach : ∀ (r : Nat) (job : Job), r ∈ [1, 0] →
      (((start attended).after overlapping).runs.map Running.job)[r]? = some job →
      (((start attended).after overlapping).recordsOf r).map Record.target = job.targets := by
    intro r job hr hJob
    obtain ⟨run, hRun, _, hTargets⟩ := hRecords r (hAppended ▸ hr)
    rw [List.getElem?_map, hRun] at hJob
    cases hJob
    exact hTargets
  rw [hTaken] at hEach
  rw [hResults, hAppended, List.flatMap_cons, List.flatMap_singleton, List.map_append,
    List.map_append, hEach 1 _ (by decide) rfl, hEach 0 _ (by decide) rfl]
  rfl

end Clients
end ServiceProbe
