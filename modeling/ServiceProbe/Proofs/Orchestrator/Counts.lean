import ServiceProbe.Proofs.Orchestrator.Clients

/-! # Counts of runs that follow each other

While runs do not overlap, the shared counts and the changes that are still to be made add up to what
the latest run has done. So the counts lag behind it, by no more than its workers have in hand. -/

namespace ServiceProbe
set_option autoImplicit false

namespace Progress

def Change.isCount : Change → Bool
  | countIdentified | countCompleted => true
  | _ => false

theorem isCount_of_suffix {changes : List Change} (h : changes <:+ recordChanges true) :
    ∀ change ∈ changes, change.isCount = true := by
  intro change hChange
  have hRecord := h.subset hChange
  cases change with
  | countIdentified | countCompleted => rfl
  | setTotal | clearCompleted | clearIdentified => simp [recordChanges] at hRecord

theorem changeAll_append (p : Progress) (changes more : List Change) :
    p.changeAll (changes ++ more) = (p.changeAll changes).changeAll more := List.foldl_append

theorem changeAll_counts {changes : List Change} (hCount : ∀ change ∈ changes, change.isCount = true)
    (p : Progress) : p.changeAll changes =
      ⟨p.total, p.completed + changes.count .countCompleted,
        p.identified + changes.count .countIdentified⟩ := by
  induction changes generalizing p with
  | nil => rfl
  | cons change changes ih =>
    obtain ⟨hChange, hCount⟩ := List.forall_mem_cons.mp hCount
    rw [changeAll, List.foldl_cons, ← changeAll, ih hCount]
    cases change with
    | setTotal | clearCompleted | clearIdentified => cases hChange
    | countIdentified | countCompleted =>
      simp [Progress.change, Nat.add_assoc, Nat.add_comm 1]

theorem changeAll_perm {changes other : List Change} (h : changes.Perm other)
    (hCount : ∀ change ∈ other, change.isCount = true) (p : Progress) :
    p.changeAll changes = p.changeAll other := by
  rw [changeAll_counts hCount, h.symm.count_eq, h.symm.count_eq,
    changeAll_counts fun change hChange => hCount change (h.mem_iff.mp hChange)]

end Progress

theorem exists_flatten_set {α : Type} {rows : List (List α)} {i : Nat} {row : List α}
    (h : rows[i]? = some row) : ∃ others, rows.flatten.Perm (row ++ others) ∧
      ∀ new, (rows.set i new).flatten.Perm (new ++ others) := by
  obtain ⟨before, after, rfl, hSet⟩ := Pool.exists_set h
  have hMiddle : ∀ middle : List α, (before ++ middle :: after).flatten.Perm
      (middle ++ (before ++ after).flatten) := by
    intro middle
    rw [List.flatten_append, List.flatten_cons, List.flatten_append]
    exact List.perm_append_comm_assoc ..
  exact ⟨_, hMiddle row, fun new => hSet new ▸ hMiddle new⟩

namespace Worker

/-- Whether a worker may have these changes still to make. -/
def Owes : Worker → List Progress.Change → Prop
  | counted _ record, changes => changes <:+ Progress.recordChanges record.isIdentified
  | _, changes => changes = []

theorem Owes.suffix {w : Worker} {changes : List Progress.Change} (h : w.Owes changes) :
    changes <:+ Progress.recordChanges true := by
  cases w with
  | counted place record =>
    have hRecord : Progress.recordChanges record.isIdentified <:+ Progress.recordChanges true := by
      cases record.isIdentified with
      | false => exact List.suffix_cons _ _
      | true => exact List.suffix_rfl
    exact List.IsSuffix.trans h hRecord
  | free | scanning | ended =>
    have hNone : changes = [] := h
    exact hNone ▸ List.nil_suffix

theorem Owes.tail {w : Worker} {change : Progress.Change} {rest : List Progress.Change}
    (h : w.Owes (change :: rest)) : w.Owes rest := by
  cases w with
  | counted place record => exact (List.suffix_cons change rest).trans h
  | free | scanning | ended => cases h

end Worker

theorem Pool.workers_step (around : Surroundings) (dialogueOf : Nat → Target → Dialogue) (p : Pool)
    (i : Nat) : ∃ w, (p.step around dialogueOf i).workers = p.workers.set i w ∧
      w.Owes (p.changes i) := by
  cases hWorker : p.workers[i]? with
  | none =>
    have hLength := List.getElem?_eq_none_iff.mp hWorker
    refine ⟨.free, ?_, by simp only [changes, hWorker, Worker.Owes]⟩
    simp only [step, hWorker, List.set_eq_of_length_le hLength]
  | some w =>
    cases w with
    | free =>
      cases hQueue : p.queue with
      | nil =>
        refine ⟨.ended, ?_, by simp only [changes, hWorker, Worker.Owes]⟩
        simp only [step, hWorker, hQueue, setWorker]
      | cons entry queue =>
        refine ⟨.scanning entry.1 entry.2 (dialogueOf entry.1 entry.2), ?_,
          by simp only [changes, hWorker, Worker.Owes]⟩
        simp only [step, hWorker, hQueue, setWorker]
    | scanning place target dialogue =>
      cases dialogue with
      | done finger =>
        refine ⟨.counted place ⟨target, finger, around.elapsed place⟩, ?_, ?_⟩
        · simp only [step, hWorker, setWorker]
        · simp only [changes, hWorker]
          exact List.suffix_rfl
      | send request next =>
        refine ⟨.scanning place target (next (around.transport p.history request)), ?_,
          by simp only [changes, hWorker, Worker.Owes]⟩
        simp only [step, hWorker, setWorker]
    | counted place record =>
      refine ⟨.free, ?_, by simp only [changes, hWorker, Worker.Owes]⟩
      simp only [step, hWorker, setWorker]
    | ended =>
      obtain ⟨hi, hGet⟩ := List.getElem?_eq_some_iff.mp hWorker
      refine ⟨.ended, ?_, by simp only [changes, hWorker, Worker.Owes]⟩
      simp only [step, hWorker]
      rw [← hGet, List.set_getElem_self]

namespace Running

/-- What holds of the changes that a run has still to make. -/
structure Balanced (run : Running) : Prop where
  workers_pos : 0 < run.pool.workers.length
  length_owed : run.owed.length = run.pool.workers.length
  owes : ∀ (i : Nat) (w : Worker) (changes : List Progress.Change),
    run.pool.workers[i]? = some w → run.owed[i]? = some changes → w.Owes changes
  opening : run.opening ≠ [] → ∀ w ∈ run.pool.workers, w = .free

/-- Whether the changes that are still to be made bring the counts to those of the run's own pool. -/
def Accounts (run : Running) (counts : Progress) : Prop :=
  counts.changeAll (run.opening ++ run.owed.flatten) = run.pool.progress

section

variable {run next : Running} {i : Nat} {changes : List Progress.Change} {counts : Progress}

theorem balanced_start (o : Orchestrator) (job : Job) (around : Surroundings) (f : Fingerprinter) :
    (start o job around f).Balanced where
  workers_pos := by
    rw [start, Orchestrator.poolFor, Pool.start, List.length_replicate]
    exact o.concurrency_pos
  length_owed := by
    simp only [start, Orchestrator.poolFor, Pool.start, List.length_replicate]
  owes := by
    intro i w changes hWorker hOwed
    rw [(List.mem_replicate.mp (List.mem_of_getElem? hWorker)).2]
    exact (List.mem_replicate.mp (List.mem_of_getElem? hOwed)).2
  opening := fun _ w hw => (List.mem_replicate.mp hw).2

theorem accounts_start (o : Orchestrator) (job : Job) (around : Surroundings) (f : Fingerprinter) :
    (start o job around f).Accounts o.progress := by
  have hNothing : (List.replicate o.concurrency ([] : List Progress.Change)).flatten = [] := by
    simp
  rw [Accounts, start, hNothing, List.append_nil]
  rfl

theorem Balanced.works (h : run.Balanced) (hWorks : run.Works i next changes) : next.Balanced := by
  cases hWorks with
  | opening change opening hOpening =>
    have hStarting : run.opening ≠ [] := by rw [hOpening]; exact List.cons_ne_nil _ _
    exact { h with opening := fun _ => h.opening hStarting }
  | pay change rest hOpening hOwed =>
    have hi := (List.getElem?_eq_some_iff.mp hOwed).1
    refine { h with length_owed := (List.length_set ..).trans h.length_owed, owes := ?_ }
    intro j w changes hWorker hChanges
    by_cases hSame : i = j
    · subst hSame
      cases (List.getElem?_set_self hi).symm.trans hChanges
      exact (h.owes i w _ hWorker hOwed).tail
    · exact h.owes j w changes hWorker ((List.getElem?_set_ne hSame).symm.trans hChanges)
  | pool hOpening hOwed =>
    obtain ⟨w, hWorkers, hOwes⟩ :=
      run.pool.workers_step run.around (fun _ => run.fingerprinter.dialogue) i
    refine ⟨?_, ?_, ?_, fun hSome => absurd hOpening hSome⟩
    · rw [stepPool, Pool.length_workers_step]
      exact h.workers_pos
    · rw [stepPool, Pool.length_workers_step, List.length_set]
      exact h.length_owed
    · intro j other changes hOther hChanges
      rw [stepPool, hWorkers] at hOther
      by_cases hSame : i = j
      · subst hSame
        have hi : i < run.pool.workers.length := by
          rw [← List.length_set]
          exact (List.getElem?_eq_some_iff.mp hOther).1
        cases (List.getElem?_set_self hi).symm.trans hOther
        cases (List.getElem?_set_self (h.length_owed ▸ hi)).symm.trans hChanges
        exact hOwes
      · exact h.owes j other changes ((List.getElem?_set_ne hSame).symm.trans hOther)
          ((List.getElem?_set_ne hSame).symm.trans hChanges)

theorem Balanced.owed_suffix (h : run.Balanced) :
    ∀ changes ∈ run.owed, changes <:+ Progress.recordChanges true := by
  intro changes hChanges
  obtain ⟨i, hi, rfl⟩ := List.getElem_of_mem hChanges
  have hWorker := List.getElem?_eq_getElem (l := run.pool.workers) (h.length_owed ▸ hi)
  exact (h.owes i _ _ hWorker (List.getElem?_eq_getElem hi)).suffix

theorem Balanced.isCount (h : run.Balanced) : ∀ change ∈ run.owed.flatten, change.isCount = true := by
  intro change hChange
  obtain ⟨changes, hChanges, hMem⟩ := List.mem_flatten.mp hChange
  exact Progress.isCount_of_suffix (h.owed_suffix changes hChanges) change hMem

theorem Accounts.works (h : run.Accounts counts) (hBalanced : run.Balanced)
    (hWorks : run.Works i next changes) : next.Accounts (counts.changeAll changes) := by
  cases hWorks with
  | opening change opening hOpening =>
    rw [Accounts, hOpening] at h
    exact h
  | pay change rest hOpening hOwed =>
    obtain ⟨others, hBefore, hAfter⟩ := exists_flatten_set hOwed
    have hCount : ∀ each ∈ change :: rest ++ others, each.isCount = true :=
      fun each hEach => hBalanced.isCount each (hBefore.mem_iff.mpr hEach)
    rw [Accounts, hOpening, List.nil_append, Progress.changeAll_perm hBefore hCount] at h
    rw [Accounts, hOpening, List.nil_append, Progress.changeAll_perm (hAfter rest)
      (List.forall_mem_cons.mp hCount).2]
    exact h
  | pool hOpening hOwed =>
    have hPerm : (run.owed.set i (run.pool.changes i)).flatten.Perm
        (run.owed.flatten ++ run.pool.changes i) := by
      cases hRow : run.owed[i]? with
      | none =>
        have hLength := List.getElem?_eq_none_iff.mp hRow
        have hNone : run.pool.workers[i]? = none :=
          List.getElem?_eq_none_iff.mpr (hBalanced.length_owed ▸ hLength)
        rw [List.set_eq_of_length_le hLength, Pool.changes, hNone, List.append_nil]
      | some row =>
        obtain ⟨others, hBefore, hAfter⟩ := exists_flatten_set hRow
        rw [hOwed row hRow, List.nil_append] at hBefore
        exact (hAfter _).trans (List.perm_append_comm.trans (hBefore.symm.append_right _))
    have hCount : ∀ each ∈ run.owed.flatten ++ run.pool.changes i, each.isCount = true := by
      intro each hEach
      rcases List.mem_append.mp hEach with hOld | hNew
      · exact hBalanced.isCount each hOld
      · obtain ⟨_, _, hOwes⟩ :=
          run.pool.workers_step run.around (fun _ => run.fingerprinter.dialogue) i
        exact Progress.isCount_of_suffix hOwes.suffix each hNew
    rw [Accounts, hOpening, List.nil_append] at h
    rw [Accounts, stepPool, Pool.progress_step, hOpening, List.nil_append,
      Progress.changeAll_perm hPerm hCount, Progress.changeAll_append, ← h]
    rfl

theorem Balanced.of_finished (h : run.Balanced) (hFinished : run.pool.Finished) :
    run.opening = [] ∧ ∀ changes ∈ run.owed, changes = [] := by
  constructor
  · by_contra hSome
    have hFirst := List.getElem_mem h.workers_pos
    have hFree := h.opening hSome _ hFirst
    rw [hFinished _ hFirst] at hFree
    cases hFree
  · intro changes hChanges
    obtain ⟨i, hi, rfl⟩ := List.getElem_of_mem hChanges
    have hWorker := List.getElem?_eq_getElem (l := run.pool.workers) (h.length_owed ▸ hi)
    have hOwes := h.owes i _ _ hWorker (List.getElem?_eq_getElem hi)
    rw [hFinished _ (List.mem_of_getElem? hWorker)] at hOwes
    exact hOwes

theorem Balanced.works_of_finished (h : run.Balanced) (hFinished : run.pool.Finished)
    (hWorks : run.Works i next changes) : changes = [] := by
  obtain ⟨hOpening, hOwed⟩ := h.of_finished hFinished
  cases hWorks with
  | opening change opening hSome => rw [hOpening] at hSome; cases hSome
  | pay change rest _ hSome => cases hOwed _ (List.mem_of_getElem? hSome)
  | pool => rfl

theorem Balanced.works_of_opened (h : run.Balanced) (hOpening : run.opening = [])
    (hWorks : run.Works i next changes) : next.opening = [] ∧
      (changes = [] ∨ changes = [.countIdentified] ∨ changes = [.countCompleted]) := by
  cases hWorks with
  | opening change opening hSome => rw [hOpening] at hSome; cases hSome
  | pay change rest _ hOwed =>
    have hCount := Progress.isCount_of_suffix (h.owed_suffix _ (List.mem_of_getElem? hOwed)) change
      List.mem_cons_self
    cases change with
    | countIdentified => exact ⟨hOpening, .inr (.inl rfl)⟩
    | countCompleted => exact ⟨hOpening, .inr (.inr rfl)⟩
    | setTotal | clearCompleted | clearIdentified => cases hCount
  | pool => exact ⟨hOpening, .inl rfl⟩

end

end Running
end ServiceProbe
