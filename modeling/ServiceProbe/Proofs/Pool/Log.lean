import ServiceProbe.Proofs.Pool.Completion

/-! # The log of a pool

Every request in the log of a pool was made for a place of the job, and the requests of a place are
those that the dialogue of its target has made so far. -/

namespace ServiceProbe
set_option autoImplicit false

/-- The requests of a log that were made for a place. -/
def requestsAt (log : List (Nat × Request)) (place : Nat) : List Request :=
  (log.filter fun entry => entry.1 == place).map Prod.snd

theorem map_fst_filter_answered (transport : Transport) (history : List Request)
    (log : List (Nat × Request)) (place : Nat) :
    (((answered transport history log).filter fun entry => entry.1 == place).map Prod.snd).map
      Prod.fst = requestsAt log place := by
  unfold requestsAt
  induction log generalizing history with
  | nil => rfl
  | cons entry log ih =>
    obtain ⟨other, request⟩ := entry
    rw [answered, List.filter_cons, List.filter_cons]
    split
    · simp only [List.map_cons, ih]
    · exact ih _

theorem map_fst_exchangesAt (transport : Transport) (log : List (Nat × Request)) (place : Nat) :
    (exchangesAt transport log place).map Prod.fst = requestsAt log place :=
  map_fst_filter_answered transport [] log place

namespace Pool

variable {around : Surroundings} {dialogueOf : Nat → Target → Dialogue} {targets : List Target}
  {p : Pool}

theorem Tracks.leads (h : Tracks around dialogueOf targets p) {place : Nat} {target : Target}
    (hTarget : targets[place]? = some target) :
    ∃ d, (dialogueOf place target).Leads (exchangesAt around.transport p.requests place) d := by
  have hPlace : place ∈ p.stages.map Prod.fst := by
    rw [h.places.mem_iff, List.mem_range]
    exact (List.getElem?_eq_some_iff.mp hTarget).1
  obtain ⟨⟨_, stage⟩, hStage, rfl⟩ := List.mem_map.mp hPlace
  have hTells := h.tells _ hStage
  cases stage with
  | waiting other =>
    rw [hTells.2]
    exact ⟨_, .here _⟩
  | asking other dialogue =>
    obtain ⟨hOther, hLeads⟩ := hTells
    cases hTarget.symm.trans hOther
    exact ⟨_, hLeads⟩
  | settled record =>
    obtain ⟨hOther, hLeads, _⟩ := hTells
    cases hTarget.symm.trans hOther
    exact ⟨_, hLeads⟩

theorem Advances.mem_log {place : Nat} {old new : Stage} {log : List (Nat × Request)}
    {progress : Progress} (h : Advances around dialogueOf p place old new log progress)
    {entry : Nat × Request} (hEntry : entry ∈ log) : entry ∈ p.requests ∨ entry.1 = place := by
  cases h with
  | take | count => exact .inl hEntry
  | ask target request next =>
    rcases List.mem_append.mp hEntry with hOld | hNew
    · exact .inl hOld
    · exact .inr (congrArg Prod.fst (List.mem_singleton.mp hNew))

def Within (n : Nat) (p : Pool) : Prop := ∀ entry ∈ p.requests, entry.1 < n

theorem within_start (n workers : Nat) (progress : Progress) :
    Within n (.start targets workers progress) := List.forall_mem_nil _

theorem Within.step (h : Within targets.length p) (hTracks : Tracks around dialogueOf targets p)
    (i : Nat) : Within targets.length (p.step around dialogueOf i) := by
  rcases step_cases around dialogueOf p i with
    ⟨_, hRequests, _⟩ | ⟨place, old, new, rest, hAdvances, hOld, _⟩
  · intro entry hEntry
    exact h entry (hRequests ▸ hEntry)
  · intro entry hEntry
    rcases hAdvances.mem_log hEntry with hBefore | rfl
    · exact h entry hBefore
    · have hStage : entry.1 ∈ p.stages.map Prod.fst :=
        List.mem_map_of_mem (hOld.mem_iff.mpr List.mem_cons_self)
      exact List.mem_range.mp (hTracks.places.mem_iff.mp hStage)

theorem Within.run (h : Within targets.length p) (hTracks : Tracks around dialogueOf targets p)
    (schedule : List Nat) : Within targets.length (p.run around dialogueOf schedule) := by
  induction schedule generalizing p with
  | nil => exact h
  | cons i schedule ih => exact ih (h.step hTracks i) (hTracks.step i)

end Pool
end ServiceProbe
