import ServiceProbe.Proofs.Orchestrator.Counts
import ServiceProbe.Proofs.Orchestrator.Sharing

/-! # Snapshots

A client reads the three shared counts one after the other, and runs may take steps in between. While
runs follow each other it never sees more targets completed or identified than there are. It can see
more of them identified than completed, by those whose workers have yet to count them as completed
and by those that are identified between its two reads. Where runs overlap, one of them takes back
what another one has counted, and the counts can be in any order. -/

namespace ServiceProbe
set_option autoImplicit false

namespace Event

def isTake : Event → Bool
  | take .. => true
  | _ => false

def isWork : Event → Bool
  | work .. => true
  | _ => false

end Event

namespace Worker

/-- Whether a worker has counted its target as identified and not yet as completed. -/
def isHalfway : Worker → List Progress.Change → Bool
  | counted _ record, changes => record.isIdentified && changes == [.countCompleted]
  | _, _ => false

/-- Whether a worker has the record of a target that is not identified. -/
def hasUnidentified : Worker → Bool
  | counted _ record => !record.isIdentified
  | _ => false

theorem Owes.count_le {w : Worker} {changes : List Progress.Change} (h : w.Owes changes) :
    changes.count .countCompleted ≤ changes.count .countIdentified +
      (if w.isHalfway changes then 1 else 0) + if w.hasUnidentified then 1 else 0 := by
  cases w with
  | free | scanning | ended =>
    have hNone : changes = [] := h
    exact hNone ▸ Nat.le_refl _
  | counted place record =>
    rw [Owes] at h
    rw [isHalfway, hasUnidentified]
    cases hRecord : record.isIdentified with
    | false =>
      have hCases : changes = [.countCompleted] ∨ changes = [] := by
        simpa [hRecord, Progress.recordChanges, List.suffix_cons_iff] using h
      rcases hCases with rfl | rfl <;> decide
    | true =>
      have hCases : changes = [.countIdentified, .countCompleted] ∨ changes = [.countCompleted] ∨
          changes = [] := by
        simpa [hRecord, Progress.recordChanges, List.suffix_cons_iff] using h
      rcases hCases with rfl | rfl | rfl <;> decide

theorem countP_hasUnidentified (workers : List Worker) :
    workers.countP hasUnidentified =
      (Pool.recordsOf (workers.filterMap stage?)).countP fun record => !record.isIdentified := by
  rw [Pool.recordsOf, List.filterMap_filterMap, List.countP_filterMap]
  congr 1
  funext w
  cases w <;> rfl

end Worker

namespace Running

theorem count_flatten_le {workers : List Worker} {owed : List (List Progress.Change)}
    (h : List.Forall₂ Worker.Owes workers owed) :
    owed.flatten.count .countCompleted ≤ owed.flatten.count .countIdentified +
      (workers.zip owed).countP (fun entry => entry.1.isHalfway entry.2) +
      workers.countP Worker.hasUnidentified := by
  induction h with
  | nil => exact Nat.le_refl _
  | @cons w changes workers owed hOwes _ ih =>
    have hFirst := hOwes.count_le
    simp only [List.flatten_cons, List.count_append, List.zip_cons_cons, List.countP_cons]
    omega

theorem Balanced.forall₂ {run : Running} (h : run.Balanced) :
    List.Forall₂ Worker.Owes run.pool.workers run.owed :=
  List.forall₂_iff_get.mpr ⟨h.length_owed.symm, fun i hWorker hOwed =>
    h.owes i _ _ (List.getElem?_eq_getElem hWorker) (List.getElem?_eq_getElem hOwed)⟩

theorem unidentified_add_identified (records : List Record) :
    (records.countP fun record => !record.isIdentified) + Record.countIdentified records =
      records.length := by
  rw [Record.countIdentified, Nat.add_comm, List.length_eq_countP_add_countP Record.isIdentified]
  simp only [Bool.not_eq_true, Bool.decide_eq_false]

/-- What the pool of a run has counted. Targets that are not identified count as completed also while
a worker has them. -/
theorem Traced.progress {o : Orchestrator} {run : Running} (h : run.Traced o) :
    run.pool.progress.total = run.job.targets.length ∧
      run.pool.progress.completed ≤ run.pool.progress.total ∧
      run.pool.progress.identified + run.pool.workers.countP Worker.hasUnidentified ≤
        run.pool.progress.completed := by
  obtain ⟨schedule, hSchedule⟩ := h
  have hTracks : Pool.Tracks run.around (fun _ => run.fingerprinter.dialogue) run.job.targets
      run.pool := by
    rw [← hSchedule]
    exact (Pool.tracks_start o.concurrency o.progress).run schedule
  have hStages : run.pool.stages.length = run.job.targets.length := by
    have hPlaces := hTracks.places.length_eq
    rwa [List.length_map, List.length_range] at hPlaces
  have hHeld : (run.pool.workers.filterMap Worker.stage?).Sublist run.pool.stages :=
    (List.sublist_append_right _ _).trans (List.sublist_append_left _ _)
  have hUnidentified := (hHeld.filterMap fun entry => entry.2.record?).countP_le
    (p := fun record => !record.isIdentified)
  rw [Worker.countP_hasUnidentified]
  have hAll := unidentified_add_identified (Pool.recordsOf run.pool.stages)
  rw [hTracks.progress_eq]
  refine ⟨rfl, hStages ▸ List.length_filterMap_le _ _, ?_⟩
  dsimp only [Pool.recordsOf] at hAll hUnidentified ⊢
  omega

end Running

namespace Clients

def counts (c : Clients) : Progress := c.orchestrator.progress

/-- What is seen by a client that reads the counts one after the other, with events in between. -/
def snapshot (c : Clients) (second third : List Event) : Progress where
  total := c.counts.total
  completed := (c.after second).counts.completed
  identified := (c.after (second ++ third)).counts.identified

/-- How many workers have counted their target as identified and not yet as completed. -/
def halfway (c : Clients) : Nat :=
  (c.runs.flatMap fun run => run.pool.workers.zip run.owed).countP fun entry =>
    entry.1.isHalfway entry.2

/-- Whether no run takes a job before the workers of all earlier ones have ended. -/
def Successive (c : Clients) : List Event → Prop
  | [] => True
  | e :: events => (e.isTake = true → ∀ run ∈ c.runs, run.pool.Finished) ∧
      Successive (c.step e).1 events

instance decidableSuccessive (c : Clients) : (events : List Event) → Decidable (c.Successive events)
  | [] => isTrue trivial
  | e :: events =>
    have := decidableSuccessive (c.step e).1 events
    inferInstanceAs (Decidable (_ ∧ _))

/-- What holds of clients whose runs follow each other. -/
structure Orderly (o : Orchestrator) (c : Clients) : Prop where
  concurrency_eq : c.orchestrator.concurrency = o.concurrency
  balanced : ∀ run ∈ c.runs, run.Balanced
  traced : ∀ run ∈ c.runs, run.Traced o
  latest : c.runs = [] ∧ c.counts = .zero ∨ ∃ earlier run, c.runs = earlier ++ [run] ∧
    (∀ old ∈ earlier, old.pool.Finished) ∧ run.Accounts c.counts

theorem orderly_start {o : Orchestrator} (h : o.progress = .zero) : Orderly o (start o) where
  concurrency_eq := rfl
  balanced := List.forall_mem_nil _
  traced := List.forall_mem_nil _
  latest := .inl ⟨rfl, h⟩

section

variable {o : Orchestrator} {c : Clients}

theorem Orderly.congr (h : Orderly o c) {d : Clients} (hRuns : d.runs = c.runs)
    (hCounts : d.counts = c.counts)
    (hConcurrency : d.orchestrator.concurrency = c.orchestrator.concurrency) : Orderly o d where
  concurrency_eq := hConcurrency.trans h.concurrency_eq
  balanced := hRuns ▸ h.balanced
  traced := hRuns ▸ h.traced
  latest := by
    rw [hRuns, hCounts]
    exact h.latest

theorem Orderly.take (h : Orderly o c) (hDone : ∀ run ∈ c.runs, run.pool.Finished)
    (jobs : List Job) (job : Job) (around : Surroundings) (f : Fingerprinter) :
    Orderly o (c.startRun { c.orchestrator with jobs := jobs } job around f) where
  concurrency_eq := h.concurrency_eq
  balanced := by
    rw [startRun, List.forall_mem_append]
    exact ⟨h.balanced, List.forall_mem_singleton.mpr (Running.balanced_start ..)⟩
  traced := by
    rw [startRun, List.forall_mem_append]
    exact ⟨h.traced, List.forall_mem_singleton.mpr (Running.traced_start h.concurrency_eq ..)⟩
  latest := .inr ⟨c.runs, _, rfl, hDone, Running.accounts_start ..⟩

theorem Orderly.work (h : Orderly o c) {r i : Nat} {run next : Running}
    {changes : List Progress.Change} (hRun : c.runs[r]? = some run)
    (hWorks : run.Works i next changes) : Orderly o (c.setRun r next changes) := by
  have hMem : run ∈ c.runs := List.mem_of_getElem? hRun
  refine ⟨h.concurrency_eq, ?_, ?_, .inr ?_⟩
  · intro other hOther
    rcases List.mem_or_eq_of_mem_set hOther with hOld | rfl
    · exact h.balanced other hOld
    · exact (h.balanced run hMem).works hWorks
  · intro other hOther
    rcases List.mem_or_eq_of_mem_set hOther with hOld | rfl
    · exact h.traced other hOld
    · exact (h.traced run hMem).works hWorks
  · rcases h.latest with ⟨hNone, _⟩ | ⟨earlier, latest, hRuns, hEarlier, hAccounts⟩
    · rw [hNone] at hMem
      cases hMem
    · rw [hRuns] at hRun
      by_cases hr : r < earlier.length
      · -- a run that is done changes neither itself nor the counts
        rw [List.getElem?_append_left hr] at hRun
        have hDone := hEarlier run (List.mem_of_getElem? hRun)
        have hNothing : changes = [] := (h.balanced run hMem).works_of_finished hDone hWorks
        refine ⟨earlier.set r next, latest, ?_, ?_, ?_⟩
        · rw [setRun, hRuns, List.set_append_left _ _ hr]
        · intro old hOld
          rcases List.mem_or_eq_of_mem_set hOld with hOther | rfl
          · exact hEarlier old hOther
          · exact hWorks.pool_of_finished hDone ▸ hDone
        · rw [hNothing]
          exact hAccounts
      · have hLast : r = earlier.length := by
          have hLength := (List.getElem?_eq_some_iff.mp hRun).1
          rw [List.length_append, List.length_singleton] at hLength
          omega
        subst hLast
        rw [List.getElem?_concat_length, Option.some.injEq] at hRun
        subst hRun
        refine ⟨earlier, next, ?_, hEarlier, hAccounts.works (h.balanced _ hMem) hWorks⟩
        rw [setRun, hRuns, List.set_append_right _ _ (Nat.le_refl _), Nat.sub_self]
        rfl

theorem Orderly.moves (h : Orderly o c) {e : Event} {d : Clients} {answer : Option Answer}
    (hMoves : c.Moves e d answer)
    (hDone : e.isTake = true → ∀ run ∈ c.runs, run.pool.Finished) : Orderly o d := by
  cases hMoves with
  | take around name job jobs f => exact h.take (hDone rfl) jobs job around f
  | work r i run next changes hRun hWorks => exact h.work hRun hWorks
  | submit | findNone | lose | missing | refuse | append => exact h.congr rfl rfl rfl

theorem Orderly.after (h : Orderly o c) (events : List Event) (hSuccessive : c.Successive events) :
    Orderly o (c.after events) := by
  induction events generalizing c with
  | nil => exact h
  | cons e events ih => exact ih (h.moves (c.moves_step e) hSuccessive.1) hSuccessive.2

def Opened (c : Clients) : Prop := ∀ run ∈ c.runs, run.opening = []

instance decidableOpened (c : Clients) : Decidable c.Opened :=
  inferInstanceAs (Decidable (∀ run ∈ c.runs, run.opening = []))

theorem Orderly.counts_of_opened (h : Orderly o c) (hOpened : c.Opened) :
    c.counts.completed ≤ c.counts.total ∧ c.counts.identified ≤ c.counts.total ∧
      c.counts.identified ≤ c.counts.completed + c.halfway ∧
      ∀ run, c.runs.getLast? = some run → c.counts.total = run.job.targets.length := by
  rcases h.latest with ⟨hNone, hZero⟩ | ⟨earlier, run, hRuns, _, hAccounts⟩
  · rw [hZero]
    refine ⟨Nat.le_refl _, Nat.le_refl _, Nat.zero_le _, fun run hRun => ?_⟩
    rw [hNone] at hRun
    cases hRun
  · have hMem : run ∈ c.runs := hRuns ▸ List.mem_append_right _ List.mem_cons_self
    have hBalanced := h.balanced run hMem
    obtain ⟨hTotal, hCompleted, hIdentified⟩ := (h.traced run hMem).progress
    rw [Running.Accounts, hOpened run hMem, List.nil_append,
      Progress.changeAll_counts hBalanced.isCount] at hAccounts
    rw [← hAccounts] at hTotal hCompleted hIdentified
    have hOwed := Running.count_flatten_le hBalanced.forall₂
    have hHalfway : ((run.pool.workers.zip run.owed).countP fun entry =>
        entry.1.isHalfway entry.2) ≤ c.halfway := by
      rw [halfway, hRuns, List.flatMap_append, List.flatMap_singleton, List.countP_append]
      exact Nat.le_add_left _ _
    dsimp only at hTotal hCompleted hIdentified
    refine ⟨by omega, by omega, by omega, fun latest hLatest => ?_⟩
    rw [hRuns, List.getLast?_concat, Option.some.injEq] at hLatest
    exact hLatest ▸ hTotal

theorem Orderly.moves_opened (h : Orderly o c) {e : Event} {d : Clients} {answer : Option Answer}
    (hMoves : c.Moves e d answer) (hTake : e.isTake = false) (hOpened : c.Opened) :
    d.Opened ∧ d.counts.total = c.counts.total ∧
      d.counts.identified ≤ c.counts.identified + [e].countP Event.isWork := by
  cases hMoves with
  | take => cases hTake
  | submit | findNone | lose | missing | refuse | append =>
    exact ⟨hOpened, rfl, Nat.le_add_right _ _⟩
  | work r i run next changes hRun hWorks =>
    have hMem := List.mem_of_getElem? hRun
    obtain ⟨hNext, hChanges⟩ := (h.balanced run hMem).works_of_opened (hOpened run hMem) hWorks
    refine ⟨?_, ?_⟩
    · intro other hOther
      rcases List.mem_or_eq_of_mem_set hOther with hOld | rfl
      · exact hOpened other hOld
      · exact hNext
    · rcases hChanges with rfl | rfl | rfl
      · exact ⟨rfl, Nat.le_add_right _ _⟩
      · exact ⟨rfl, Nat.le_refl _⟩
      · exact ⟨rfl, Nat.le_add_right _ _⟩

/-- While no run begins, the total stays, and a step of a run identifies one target at most. -/
theorem Orderly.after_opened (h : Orderly o c) (hOpened : c.Opened) (events : List Event)
    (hTakes : ∀ e ∈ events, e.isTake = false) :
    Orderly o (c.after events) ∧ (c.after events).Opened ∧
      (c.after events).counts.total = c.counts.total ∧
      (c.after events).counts.identified ≤ c.counts.identified + events.countP Event.isWork := by
  induction events generalizing c with
  | nil => exact ⟨h, hOpened, rfl, Nat.le_refl _⟩
  | cons e events ih =>
    obtain ⟨hTake, hTakes⟩ := List.forall_mem_cons.mp hTakes
    have hMoves := c.moves_step e
    obtain ⟨hNext, hTotal, hIdentified⟩ := h.moves_opened hMoves hTake hOpened
    have hStep : Orderly o (c.step e).1 := h.moves hMoves fun hSome => by
      rw [hTake] at hSome
      cases hSome
    obtain ⟨hLast, hLastOpened, hLastTotal, hLastIdentified⟩ := ih hStep hNext hTakes
    refine ⟨hLast, hLastOpened, hLastTotal.trans hTotal, ?_⟩
    have hWorks : ([e] ++ events).countP Event.isWork =
        [e].countP Event.isWork + events.countP Event.isWork := List.countP_append
    rw [List.singleton_append] at hWorks
    rw [after_cons, hWorks]
    omega

end

/-- What a client can see of a run that overlaps no other one. -/
theorem snapshot_of_successive (o : Orchestrator) (hFresh : o.progress = .zero)
    (first second third : List Event) (hSuccessive : (start o).Successive first)
    (hOpened : ((start o).after first).Opened)
    (hTakes : ∀ e ∈ second ++ third, e.isTake = false) :
    let c := (start o).after first
    let seen := c.snapshot second third
    seen.completed ≤ seen.total ∧ seen.identified ≤ seen.total ∧
      seen.identified ≤ seen.completed + (c.after second).halfway + third.countP Event.isWork ∧
      ∀ run, c.runs.getLast? = some run → seen.total = run.job.targets.length := by
  intro c seen
  obtain ⟨hSecond, hThird⟩ := List.forall_mem_append.mp hTakes
  have hOrderly : Orderly o c := (orderly_start hFresh).after first hSuccessive
  obtain ⟨hMiddle, hMiddleOpened, hMiddleTotal, _⟩ :=
    hOrderly.after_opened hOpened second hSecond
  obtain ⟨hLast, hLastOpened, hLastTotal, hGrown⟩ :=
    hMiddle.after_opened hMiddleOpened third hThird
  obtain ⟨_, _, _, hJob⟩ := hOrderly.counts_of_opened hOpened
  obtain ⟨hCompleted, _, hHalf, _⟩ := hMiddle.counts_of_opened hMiddleOpened
  obtain ⟨_, hIdentified, _, _⟩ := hLast.counts_of_opened hLastOpened
  have hSeen : seen = ⟨c.counts.total, (c.after second).counts.completed,
      ((c.after second).after third).counts.identified⟩ := by
    simp only [seen, snapshot, after_append]
  rw [hSeen]
  dsimp only
  exact ⟨by omega, by omega, by omega, hJob⟩

/-- An orchestrator with one worker for each run, which identifies every target. -/
def finding : Orchestrator :=
  (Orchestrator.new 1 0).addFingerprinter "probes"
    ⟨"anybody", 0, fun _ => .done (some { probe := "a", service := "b" })⟩

/-- A run for one target, up to the changes that begin its job. -/
def begun : List Event :=
  [.submit ⟨0, [.ofHostPort "h" 22], .zero⟩, .take Orchestrator.unplugged none] ++
    List.replicate 3 (.work 0 0)

/-- After the worker has taken the target, identified it and made both its counts, nobody sees it as
identified who does not see it as completed. -/
theorem snapshot_of_counted_target :
    finding.progress = .zero ∧ (start finding).Successive begun ∧
      ((start finding).after begun).Opened ∧
      let seen := ((start finding).after begun).snapshot (List.replicate 4 (.work 0 0)) []
      seen.total = 1 ∧ seen.completed ≤ 1 ∧ seen.identified ≤ seen.completed := by
  have hSuccessive : (start finding).Successive begun := by decide
  have hOpened : ((start finding).after begun).Opened := by decide
  obtain ⟨hCompleted, _, hIdentified, hTotal⟩ := snapshot_of_successive finding rfl begun
    (List.replicate 4 (.work 0 0)) [] hSuccessive hOpened (by decide)
  have hOne :
      (((start finding).after begun).snapshot (List.replicate 4 (.work 0 0)) []).total = 1 :=
    (hTotal _ (List.getLast?_eq_some_getLast (by decide))).trans (by decide)
  have hNobody :
      (((start finding).after begun).after (List.replicate 4 (.work 0 0))).halfway = 0 := by
    decide
  rw [hOne] at hCompleted
  rw [hNobody] at hIdentified
  exact ⟨rfl, hSuccessive, hOpened, hOne, hCompleted, hIdentified⟩

/-- A run for one target begins, then one without targets, and then the first completes its target. -/
def overtaken : List Event :=
  [.submit ⟨0, [.ofHostPort "h" 22], .zero⟩, .submit ⟨1, [], .zero⟩,
    .take Orchestrator.unplugged none, .take Orchestrator.unplugged none] ++
    List.replicate 3 (.work 0 0) ++ List.replicate 3 (.work 1 0) ++ List.replicate 3 (.work 0 0)

/-- A lone run is seen between its two counts, and of two runs that overlap one counts its target on
the total of the other. -/
theorem not_snapshot_ordered :
    (¬ ∀ (o : Orchestrator) (first second third : List Event), o.progress = .zero →
      (((start o).after first).snapshot second third).identified ≤
        (((start o).after first).snapshot second third).completed) ∧
    ¬ ∀ (o : Orchestrator) (first second third : List Event), o.progress = .zero →
      (((start o).after first).snapshot second third).completed ≤
        (((start o).after first).snapshot second third).total :=
  ⟨fun h => absurd (h finding (begun ++ List.replicate 3 (.work 0 0)) [] [] rfl) (by decide),
    fun h => absurd (h attended overtaken [] [] rfl) (by decide)⟩

end Clients
end ServiceProbe
