import ServiceProbe.Proofs.Pool.Completion

/-! # Runs under a name that nobody has

A run takes its job off the queue before it looks for the fingerprinter. If nobody is registered
under the name, the job is lost, and nothing else changes; the next run that finds a fingerprinter
does the job that stood second. -/

namespace ServiceProbe.Orchestrator
set_option autoImplicit false

section

variable {o : Orchestrator} {around : Surroundings} {name : Option String}

theorem run_of_no_jobs (h : o.jobs = []) : o.run around name = ⟨.ok [], o, []⟩ := by
  simp only [run, takeJob?, h]

theorem run_of_unregistered {fault : RunFault} (hName : o.fingerprinter? name = .error fault)
    {job : Job} {rest : List Job} (hJobs : o.jobs = job :: rest) :
    o.run around name = ⟨.error fault, { o with jobs := rest }, []⟩ := by
  have hSame : Orchestrator.fingerprinter? { o with jobs := rest } name = .error fault := hName
  simp only [run, takeJob?, hJobs, hSame]

theorem targets_of_finished (o : Orchestrator) (job : Job) (around : Surroundings)
    (dialogueOf : Nat → Target → Dialogue) (schedule : List Nat)
    (h : ((o.poolFor job).run around dialogueOf schedule).Finished) :
    ((o.poolFor job).run around dialogueOf schedule).records.map Record.target = job.targets := by
  have hTracks : Pool.Tracks around dialogueOf job.targets
      ((o.poolFor job).run around dialogueOf schedule) :=
    (Pool.tracks_start o.concurrency o.progress).run schedule
  have hLast : Pool.EndsLast ((o.poolFor job).run around dialogueOf schedule) := by
    apply Pool.EndsLast.run
    intro hEnded
    cases (List.mem_replicate.mp hEnded).2
  have hWorkers : 0 < ((o.poolFor job).run around dialogueOf schedule).workers.length := by
    rw [Pool.length_workers_run, poolFor, Pool.start, List.length_replicate]
    exact o.concurrency_pos
  obtain ⟨fingers, _, hRecords⟩ :=
    hTracks.records_of_finished (Pool.stages_of_finished hLast hWorkers h)
  rw [hRecords]
  apply List.ext_getElem
  · simp
  · intro place hMapped hTarget
    simp

theorem run_of_registered {f : Fingerprinter} (hName : o.fingerprinter? name = .ok f) {job : Job}
    {rest : List Job} (hJobs : o.jobs = job :: rest) :
    ∃ records, (o.run around name).result = .ok records ∧
      records.map Record.target = job.targets ∧
      (o.run around name).after.jobs = rest ∧
      (o.run around name).after.results = o.results ++ records := by
  let remaining : Orchestrator := { o with jobs := rest }
  have hSame : remaining.fingerprinter? name = .ok f := hName
  have hFront : o = { remaining with jobs := job :: remaining.jobs } := by
    simp only [remaining, ← hJobs]
  obtain ⟨schedule, hFinished, hRun⟩ := run_eq_conclude remaining job around hSame
  rw [hFront, hRun]
  exact ⟨_, rfl, targets_of_finished remaining job around _ schedule hFinished, rfl, rfl⟩

end

/-- What a run leaves behind that finds nobody under its name: all of the orchestrator but the job
in front, which no later run does. -/
theorem unregistered_run_loses_job (o : Orchestrator) (around : Surroundings)
    (name : Option String) (fault : RunFault) (hName : o.fingerprinter? name = .error fault) :
    let outcome := o.run around name
    (outcome.result = .error fault ↔ o.jobs ≠ []) ∧ outcome.requests = [] ∧
      outcome.after = { o with jobs := o.jobs.tail } ∧
      ∀ lost jobs, o.jobs = lost :: jobs → ∀ later other f, o.fingerprinter? other = .ok f →
        let second := outcome.after.run later other
        (jobs = [] → second = ⟨.ok [], outcome.after, []⟩) ∧
          ∀ next rest, jobs = next :: rest → ∃ records, second.result = .ok records ∧
            records.map Record.target = next.targets ∧ second.after.jobs = rest ∧
            second.after.results = o.results ++ records := by
  intro outcome
  cases hJobs : o.jobs with
  | nil =>
    have hOutcome : outcome = ⟨.ok [], o, []⟩ := run_of_no_jobs hJobs
    rw [hOutcome]
    refine ⟨by simp, rfl, ?_, fun lost jobs hCons => by cases hCons⟩
    rw [List.tail_nil, ← hJobs]
  | cons lost jobs =>
    have hOutcome : outcome = ⟨.error fault, { o with jobs := jobs }, []⟩ :=
      run_of_unregistered hName hJobs
    rw [hOutcome]
    refine ⟨by simp, rfl, rfl, ?_⟩
    rintro _ _ hCons later other f hOther
    cases hCons
    have hLater : Orchestrator.fingerprinter? { o with jobs := jobs } other = .ok f := hOther
    refine ⟨fun hNone => run_of_no_jobs hNone, fun next rest hNext => ?_⟩
    exact run_of_registered hLater hNext

/-- Two jobs, and a fingerprinter under another name than the one that runs look up unasked. -/
def twoJobs : Orchestrator :=
  (((new 1 0).addFingerprinter "nobody" ⟨"nobody", 0, fun _ => .done none⟩).submit
    ⟨0, [.ofHostPort "h" 22], .zero⟩).submit ⟨1, [.ofHostPort "h" 80], .zero⟩

def unplugged : Surroundings := ⟨fun _ _ => .error (.timeout ""), fun _ => .zero⟩

theorem unregistered_run_loses_first_of_two :
    twoJobs.fingerprinter? none = .error (.notRegistered "probes") ∧
      (twoJobs.run unplugged none).after = { twoJobs with jobs := twoJobs.jobs.tail } ∧
      ∃ records, ((twoJobs.run unplugged none).after.run unplugged (some "nobody")).result =
          .ok records ∧ records.map Record.target = [.ofHostPort "h" 80] := by
  have hName : twoJobs.fingerprinter? none = .error (.notRegistered "probes") := rfl
  obtain ⟨_, _, hAfter, hLater⟩ := unregistered_run_loses_job twoJobs unplugged none _ hName
  obtain ⟨_, hSecond⟩ := hLater _ _ rfl unplugged (some "nobody") _ rfl
  obtain ⟨records, hResult, hTargets, _⟩ := hSecond _ _ rfl
  exact ⟨hName, hAfter, records, hResult, hTargets⟩

theorem not_failed_run_keeps_jobs :
    ¬ ∀ (o : Orchestrator) (around : Surroundings) (name : Option String) (fault : RunFault),
      o.fingerprinter? name = .error fault → (o.run around name).result = .error fault →
        (o.run around name).after.jobs = o.jobs ∧
          (o.run around name).after.results = o.results ∧
          (o.run around name).after.progress = o.progress := by
  intro h
  have hKept := (h twoJobs unplugged none (.notRegistered "probes") rfl rfl).1
  have hLengths : 1 = 2 := congrArg List.length hKept
  cases hLengths

end ServiceProbe.Orchestrator
