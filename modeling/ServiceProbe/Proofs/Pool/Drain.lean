import ServiceProbe.Pool

/-! # A pool that one worker drains

The order in which a pool is drained is one of the orders in which its workers may take their steps:
the first worker does all targets, and then every worker finds the queue empty. -/

namespace ServiceProbe.Pool
set_option autoImplicit false

variable (around : Surroundings) (dialogueOf : Nat → Target → Dialogue)

def Finished (p : Pool) : Prop := ∀ w ∈ p.workers, w = Worker.ended

/-- Some steps of the workers lead from a pool to another one. -/
def Reaches (p q : Pool) : Prop := ∃ schedule, p.run around dialogueOf schedule = q

variable {around dialogueOf} {p q r : Pool} {i place : Nat} {target : Target}

theorem Reaches.refl (p : Pool) : Reaches around dialogueOf p p := ⟨[], rfl⟩

theorem Reaches.trans (h : Reaches around dialogueOf p q) (k : Reaches around dialogueOf q r) :
    Reaches around dialogueOf p r := by
  obtain ⟨first, rfl⟩ := h
  obtain ⟨second, rfl⟩ := k
  exact ⟨first ++ second, List.foldl_append⟩

theorem Reaches.of_step (h : p.step around dialogueOf i = q) : Reaches around dialogueOf p q :=
  ⟨[i], h⟩

theorem reaches_counted (d : Dialogue) (h : p.workers[i]? = some (.scanning place target d)) :
    Reaches around dialogueOf p ({ p with
      requests := p.requests ++ (d.run around.transport p.history).1.map fun request => (place, request)
      progress := p.progress.record (d.run around.transport p.history).2.isSome }.setWorker i
        (.counted place
          ⟨target, (d.run around.transport p.history).2, around.elapsed place⟩)) := by
  induction d generalizing p with
  | done finger =>
    apply Reaches.of_step (i := i)
    simp only [step, h, Dialogue.run, List.map_nil, List.append_nil]
  | send request next ih =>
    let asked : Pool := { p with requests := p.requests ++ [(place, request)] }.setWorker i
      (.scanning place target (next (around.transport p.history request)))
    have hStep : Reaches around dialogueOf p asked := by
      apply Reaches.of_step (i := i)
      simp only [step, h, asked]
    have hi : i < p.workers.length := (List.getElem?_eq_some_iff.mp h).1
    have hWorker : asked.workers[i]? =
        some (.scanning place target (next (around.transport p.history request))) :=
      List.getElem?_set_self hi
    have hHistory : asked.history = p.history ++ [request] := by
      simp [asked, history, setWorker]
    refine hStep.trans ?_
    have hRest := ih _ hWorker
    rw [hHistory] at hRest
    simpa only [Dialogue.run, List.map_cons, asked, setWorker, List.set_set, List.append_assoc,
      List.singleton_append] using hRest

theorem reaches_serve (h : p.workers[i]? = some .free) {queue : List (Nat × Target)}
    (hQueue : p.queue = (place, target) :: queue) :
    Reaches around dialogueOf p (p.serve around dialogueOf (place, target)) := by
  obtain ⟨hi, hFree⟩ := List.getElem?_eq_some_iff.mp h
  let taken : Pool := { p with queue := queue }.setWorker i
    (.scanning place target (dialogueOf place target))
  have hTake : Reaches around dialogueOf p taken := by
    apply Reaches.of_step (i := i)
    simp only [step, h, hQueue, taken]
  have hCount : Reaches around dialogueOf taken _ :=
    reaches_counted (dialogueOf place target) (List.getElem?_set_self hi)
  refine (hTake.trans hCount).trans (Reaches.of_step (i := i) ?_)
  have hBack : p.workers.set i .free = p.workers := by
    rw [← hFree, List.set_getElem_self]
  simp only [taken, setWorker, List.set_set, step, List.getElem?_set_self hi, hBack, serve, history,
    hQueue, List.drop_succ_cons, List.drop_zero]

theorem reaches_foldl_serve (h : p.workers[i]? = some .free) :
    Reaches around dialogueOf p (p.queue.foldl (serve around dialogueOf) p) := by
  generalize hQueue : p.queue = queue
  induction queue generalizing p with
  | nil => exact .refl p
  | cons entry queue ih =>
    obtain ⟨place, target⟩ := entry
    refine (reaches_serve h hQueue).trans (ih h ?_)
    simp [serve, hQueue]

theorem queue_foldl_serve (p : Pool) :
    (p.queue.foldl (serve around dialogueOf) p).queue = [] := by
  generalize hQueue : p.queue = queue
  induction queue generalizing p with
  | nil => exact hQueue
  | cons entry queue ih =>
    refine ih _ ?_
    simp [serve, hQueue]

theorem workers_foldl_serve (p : Pool) (queue : List (Nat × Target)) :
    (queue.foldl (serve around dialogueOf) p).workers = p.workers := by
  induction queue generalizing p with
  | nil => rfl
  | cons entry queue ih => exact ih _

theorem reaches_ended (ended free : Nat) (hQueue : p.queue = [])
    (h : p.workers = List.replicate ended .ended ++ List.replicate free .free) :
    Reaches around dialogueOf p { p with workers := List.replicate (ended + free) .ended } := by
  induction free generalizing p ended with
  | zero =>
    rw [List.replicate_zero, List.append_nil] at h
    rw [Nat.add_zero, ← h]
    exact .refl p
  | succ free ih =>
    have hWorker : p.workers[ended]? = some .free := by
      rw [h, List.getElem?_append_right (by simp)]
      simp
    have hSet : p.workers.set ended .ended =
        List.replicate (ended + 1) .ended ++ List.replicate free .free := by
      rw [h, List.set_append_right _ _ (by simp), List.length_replicate, Nat.sub_self,
        List.replicate_succ (n := free), List.set_cons_zero, List.replicate_succ' (n := ended),
        List.append_assoc, List.singleton_append]
    have hStep : Reaches around dialogueOf p (p.setWorker ended .ended) := by
      apply Reaches.of_step (i := ended)
      simp only [step, hWorker, hQueue]
    refine hStep.trans ?_
    have hRest := ih (p := p.setWorker ended .ended) (ended + 1) hQueue hSet
    rwa [Nat.add_right_comm] at hRest

theorem reaches_drain (targets : List Target) {workers : Nat} (h : 0 < workers)
    (progress : Progress) :
    Reaches around dialogueOf (start targets workers progress)
      ((start targets workers progress).drain around dialogueOf) := by
  have hFree : (start targets workers progress).workers[0]? = some .free := by
    simp [start, h]
  refine (reaches_foldl_serve hFree).trans ?_
  have hWorkers : ((start targets workers progress).queue.foldl (serve around dialogueOf)
      (start targets workers progress)).workers = List.replicate workers .free := by
    rw [workers_foldl_serve]
    rfl
  have hEnd : Reaches around dialogueOf _ _ :=
    reaches_ended 0 workers (queue_foldl_serve (start targets workers progress)) hWorkers
  rw [Nat.zero_add] at hEnd
  rw [drain, hWorkers, List.map_replicate]
  exact hEnd

theorem finished_drain (p : Pool) : (p.drain around dialogueOf).Finished := by
  intro w hw
  obtain ⟨_, _, rfl⟩ := List.mem_map.mp hw
  rfl

end ServiceProbe.Pool
