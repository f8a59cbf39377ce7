import Mathlib.Data.List.Perm.Basic
import ServiceProbe.Proofs.Discovery.Round

/-! # What the steps of a round keep

A step brings one check on or changes nothing. Whatever the order of the steps, the checks that have
ended are those at the places that have come to their ends, each with an outcome that its ping and
its attempts account for, and no more checks are under way than there are permits. As long as a check
has not ended there is a step that brings one on, and every such step leaves less to do. -/

namespace ServiceProbe.Discovery.Round
set_option autoImplicit false

variable {d : Discovery} {around : Setting} {hosts : List Address} {r : Round} {place choice : Nat}
  {host : Address} {old new : Phase} {ended : List Check}

/-- What a step does to the check at a place, with that check if the step ends it. -/
inductive Advances (d : Discovery) (around : Setting) (r : Round) (place : Nat) (host : Address) :
    Phase → Phase → List Check → Prop where
  | enter (h : r.underway < d.concurrency) : Advances d around r place host .waiting .pinging []
  | answer (h : (d.icmp && around.ping place host) = true) :
      Advances d around r place host .pinging .ended [⟨place, host, verdict true []⟩]
  | connect (h : (d.icmp && around.ping place host) = false) :
      Advances d around r place host .pinging
        (.sweeping (d.attempts (around.network place) host) []) []
  | complete {out rest joined : List (Attempt Unit)} {a : Attempt Unit} (h : (a :: rest).Perm out) :
      Advances d around r place host (.sweeping out joined) (.sweeping rest (joined ++ [a])) []
  | conclude {out joined : List (Attempt Unit)} (h : isSwept out joined = true) :
      Advances d around r place host (.sweeping out joined) .ended
        [⟨place, host, verdict false joined⟩]

theorem step_cases (d : Discovery) (around : Setting) (r : Round) (place choice : Nat) :
    r.step d around place choice = r ∨ ∃ host old new ended, r.entries[place]? = some (host, old) ∧
      Advances d around r place host old new ended ∧
      r.step d around place choice = ⟨r.entries.set place (host, new), r.checks ++ ended⟩ := by
  cases hEntry : r.entries[place]? with
  | none => exact .inl (by simp only [step, hEntry])
  | some entry =>
    obtain ⟨host, phase⟩ := entry
    cases phase with
    | ended => exact .inl (by simp only [step, hEntry])
    | waiting =>
      by_cases hPermit : r.underway < d.concurrency
      · refine .inr ⟨host, _, _, _, rfl, .enter hPermit, ?_⟩
        simp only [step, hEntry, if_pos hPermit, setPhase, List.append_nil]
      · exact .inl (by simp only [step, hEntry, if_neg hPermit])
    | pinging =>
      cases hPing : d.icmp && around.ping place host with
      | true =>
        refine .inr ⟨host, _, _, _, rfl, .answer hPing, ?_⟩
        simp only [step, hEntry, hPing, if_true, close]
      | false =>
        refine .inr ⟨host, _, _, _, rfl, .connect hPing, ?_⟩
        simp only [step, hEntry, hPing, Bool.false_eq_true, if_false, setPhase, List.append_nil]
    | sweeping out joined =>
      cases hSwept : isSwept out joined with
      | true =>
        refine .inr ⟨host, _, _, _, rfl, .conclude hSwept, ?_⟩
        simp only [step, hEntry, hSwept, if_true, close]
      | false =>
        cases hChoice : out[choice]? with
        | none => exact .inl (by simp only [step, hEntry, hSwept, hChoice, Bool.false_eq_true, if_false])
        | some a =>
          obtain ⟨hLess, rfl⟩ := List.getElem?_eq_some_iff.mp hChoice
          refine .inr ⟨host, _, _, _, rfl, .complete (List.getElem_cons_eraseIdx_perm hLess), ?_⟩
          simp only [step, hEntry, hSwept, hChoice, Bool.false_eq_true, if_false, setPhase,
            List.append_nil]

/-! ## One place among the others -/

theorem perm_of_getElem? {α : Type} {l : List α} {a : α} (h : l[place]? = some a) :
    l.Perm (a :: l.eraseIdx place) ∧ ∀ b, (l.set place b).Perm (b :: l.eraseIdx place) := by
  obtain ⟨hLess, rfl⟩ := List.getElem?_eq_some_iff.mp h
  exact ⟨(List.getElem_cons_eraseIdx_perm hLess).symm, List.set_perm_cons_eraseIdx hLess⟩

theorem zipIdx_set {α : Type} (l : List α) (i : Nat) (a : α) :
    (l.set i a).zipIdx = l.zipIdx.set i (a, i) := by
  apply List.ext_getElem?
  intro j
  rw [List.getElem?_zipIdx, List.getElem?_set, List.getElem?_set, List.getElem?_zipIdx,
    List.length_zipIdx, Nat.zero_add]
  split
  · rename_i hSame
    subst hSame
    split <;> rfl
  · rfl

def ended? : (Address × Phase) × Nat → Option (Address × Nat)
  | ((host, .ended), place) => some (host, place)
  | _ => none

def endedAt (entries : List (Address × Phase)) : List (Address × Nat) :=
  entries.zipIdx.filterMap ended?

theorem endedAt_set_perm {entries : List (Address × Phase)} (h : entries[place]? = some (host, old))
    (hOld : ended? ((host, old), place) = none) :
    (endedAt (entries.set place (host, new))).Perm
      (endedAt entries ++ (ended? ((host, new), place)).toList) := by
  have hEntry : entries.zipIdx[place]? = some ((host, old), place) := by
    rw [List.getElem?_zipIdx, h, Nat.zero_add]
    rfl
  obtain ⟨hBefore, hAfter⟩ := perm_of_getElem? hEntry
  have hRest := hBefore.filterMap ended?
  have hNew := (hAfter ((host, new), place)).filterMap ended?
  rw [List.filterMap_cons_none hOld] at hRest
  rw [← zipIdx_set] at hNew
  refine hNew.trans (List.Perm.trans ?_ (hRest.symm.append_right _))
  cases hEnded : ended? ((host, new), place) with
  | some found =>
    rw [List.filterMap_cons_some hEnded]
    exact (List.perm_append_singleton found _).symm
  | none =>
    rw [List.filterMap_cons_none hEnded]
    exact .of_eq (List.append_nil _).symm

theorem Advances.ended?_old (h : Advances d around r place host old new ended) :
    ended? ((host, old), place) = none := by
  cases h <;> rfl

theorem Advances.ended?_new (h : Advances d around r place host old new ended) :
    ended.map (fun c => (c.host, c.place)) = (ended? ((host, new), place)).toList := by
  cases h <;> rfl

theorem exists_underway_eq {entries : List (Address × Phase)}
    (h : entries[place]? = some (host, old)) : ∃ others,
      (entries.countP fun entry => entry.2.isUnderway) = others + old.isUnderway.toNat ∧
        ∀ new, ((entries.set place (host, new)).countP fun entry => entry.2.isUnderway) =
          others + new.isUnderway.toNat := by
  obtain ⟨hBefore, hAfter⟩ := perm_of_getElem? h
  have hToNat : ∀ b : Bool, (if b = true then 1 else 0) = b.toNat := by decide
  refine ⟨(entries.eraseIdx place).countP fun entry => entry.2.isUnderway, ?_, fun new => ?_⟩
  · rw [hBefore.countP_eq, List.countP_cons, hToNat]
  · rw [(hAfter (host, new)).countP_eq, List.countP_cons, hToNat]

theorem Advances.underway_le (h : Advances d around r place host old new ended)
    (hEntry : r.entries[place]? = some (host, old)) (hLe : r.underway ≤ d.concurrency) :
    (⟨r.entries.set place (host, new), r.checks ++ ended⟩ : Round).underway ≤ d.concurrency := by
  obtain ⟨others, hOld, hNew⟩ := exists_underway_eq hEntry
  rw [underway, hOld] at hLe
  rw [underway, hNew]
  cases h with
  | enter hPermit =>
    rw [underway, hOld] at hPermit
    exact hPermit
  | connect | complete => exact hLe
  | answer | conclude => exact Nat.le_of_succ_le hLe

/-- What holds of a round of the hosts, however far its checks have come. -/
structure Tracks (d : Discovery) (around : Setting) (hosts : List Address) (r : Round) : Prop where
  hosts_eq : r.entries.map Prod.fst = hosts
  underway_le : r.underway ≤ d.concurrency
  swept : ∀ place host out joined, r.entries[place]? = some (host, .sweeping out joined) →
    (d.icmp && around.ping place host) = false ∧
      (joined ++ out).Perm (d.attempts (around.network place) host)
  judged : ∀ c ∈ r.checks, Judges (d.icmp && around.ping c.place c.host)
    (d.attempts (around.network c.place) c.host) c.outcome
  places : (r.checks.map fun c => (c.host, c.place)).Perm (endedAt r.entries)

theorem Tracks.judged_of_advances (h : Tracks d around hosts r)
    (hEntry : r.entries[place]? = some (host, old))
    (hAdvances : Advances d around r place host old new ended) :
    ∀ c ∈ ended, Judges (d.icmp && around.ping c.place c.host)
      (d.attempts (around.network c.place) c.host) c.outcome := by
  intro c hc
  cases hAdvances with
  | enter | connect | complete => cases hc
  | answer hPing =>
    obtain rfl := List.mem_singleton.mp hc
    rw [hPing]
    exact judges_pinged _
  | conclude hSwept =>
    obtain rfl := List.mem_singleton.mp hc
    obtain ⟨hPing, hPerm⟩ := h.swept _ _ _ _ hEntry
    rw [hPing]
    exact judges_of_joined hPerm (isSwept_iff.mp hSwept)

theorem Tracks.swept_of_advances (h : Tracks d around hosts r)
    (hEntry : r.entries[place]? = some (host, old))
    (hAdvances : Advances d around r place host old new ended)
    {out joined : List (Attempt Unit)} (hNew : new = .sweeping out joined) :
    (d.icmp && around.ping place host) = false ∧
      (joined ++ out).Perm (d.attempts (around.network place) host) := by
  subst hNew
  cases hAdvances with
  | connect hPing => exact ⟨hPing, .refl _⟩
  | complete hRest =>
    obtain ⟨hPing, hPerm⟩ := h.swept _ _ _ _ hEntry
    refine ⟨hPing, ?_⟩
    rw [List.append_assoc, List.singleton_append]
    exact (hRest.append_left _).trans hPerm

theorem Tracks.step (h : Tracks d around hosts r) (place choice : Nat) :
    Tracks d around hosts (r.step d around place choice) := by
  rcases step_cases d around r place choice with
    hSame | ⟨host, old, new, ended, hEntry, hAdvances, hStep⟩
  · exact hSame.symm ▸ h
  · rw [hStep]
    constructor
    · have hHost : (r.entries.map Prod.fst)[place]? = some host := by
        rw [List.getElem?_map, hEntry]
        rfl
      obtain ⟨hLess, hAt⟩ := List.getElem?_eq_some_iff.mp hHost
      rw [List.map_set, ← h.hosts_eq, ← hAt, List.set_getElem_self]
    · exact hAdvances.underway_le hEntry h.underway_le
    · intro at' host' out joined hAt
      rw [List.getElem?_set] at hAt
      split at hAt
      · rename_i hPlace
        subst hPlace
        split at hAt
        · obtain ⟨rfl, hNew⟩ := Prod.mk.inj (Option.some.inj hAt)
          exact h.swept_of_advances hEntry hAdvances hNew
        · cases hAt
      · exact h.swept _ _ _ _ hAt
    · intro c hc
      rcases List.mem_append.mp hc with hOld | hNew
      · exact h.judged c hOld
      · exact h.judged_of_advances hEntry hAdvances c hNew
    · rw [List.map_append, hAdvances.ended?_new]
      exact (h.places.append_right _).trans (endedAt_set_perm hEntry hAdvances.ended?_old).symm

theorem tracks_start (d : Discovery) (around : Setting) (hosts : List Address) :
    Tracks d around hosts (start hosts) := by
  have hWaiting : ∀ entry ∈ (start hosts).entries, entry.2 = .waiting := by
    intro entry hEntry
    obtain ⟨host, _, rfl⟩ := List.mem_map.mp hEntry
    rfl
  constructor
  · rw [start, List.map_map]
    exact List.map_id _
  · have hNone : (start hosts).underway = 0 := by
      apply List.countP_eq_zero.mpr
      intro entry hEntry
      rw [hWaiting entry hEntry]
      exact Bool.false_ne_true
    rw [hNone]
    exact Nat.zero_le _
  · intro place host out joined hAt
    have hPhase := hWaiting _ (List.mem_of_getElem? hAt)
    cases hPhase
  · intro c hc
    cases hc
  · have hNone : endedAt (start hosts).entries = [] := by
      apply List.filterMap_eq_nil_iff.mpr
      rintro ⟨⟨host, phase⟩, place⟩ hEntry
      obtain rfl := hWaiting _ (List.mem_of_getElem? (List.mem_zipIdx_iff_getElem?.mp hEntry))
      rfl
    rw [hNone]
    exact .refl _

theorem Tracks.run (h : Tracks d around hosts r) (schedule : List (Nat × Nat)) :
    Tracks d around hosts (r.run d around schedule) := by
  induction schedule generalizing r with
  | nil => exact h
  | cons next schedule ih => exact ih (h.step next.1 next.2)

/-! ## Progress -/

def workOf (ports : Nat) : Phase → Nat
  | .waiting => ports + 3
  | .pinging => ports + 2
  | .sweeping out _ => out.length + 1
  | .ended => 0

def workLeft (ports : Nat) : List (Address × Phase) → Nat
  | [] => 0
  | (_, phase) :: entries => workOf ports phase + workLeft ports entries

/-- An upper bound for the steps that are still to come. -/
def work (d : Discovery) (r : Round) : Nat := workLeft d.ports.length r.entries

theorem workOf_eq_zero_iff (ports : Nat) (phase : Phase) : workOf ports phase = 0 ↔ phase = .ended := by
  cases phase <;> simp [workOf]

theorem finished_of_work_eq_zero (h : r.work d = 0) : r.Finished := by
  rw [work] at h
  unfold Finished
  generalize r.entries = entries at h
  induction entries with
  | nil => simp
  | cons entry entries ih =>
    obtain ⟨host, phase⟩ := entry
    rw [workLeft, Nat.add_eq_zero_iff, workOf_eq_zero_iff] at h
    exact List.forall_mem_cons.mpr ⟨h.1, ih h.2⟩

theorem workLeft_set (ports : Nat) {entries : List (Address × Phase)}
    (h : entries[place]? = some (host, old)) :
    workLeft ports (entries.set place (host, new)) + workOf ports old =
      workLeft ports entries + workOf ports new := by
  induction entries generalizing place with
  | nil => cases h
  | cons entry entries ih =>
    cases place with
    | zero =>
      cases h
      simp only [List.set_cons_zero, workLeft]
      omega
    | succ place =>
      have hRest := ih h
      simp only [List.set_cons_succ, workLeft]
      omega

theorem Advances.workOf_lt (h : Advances d around r place host old new ended) :
    workOf d.ports.length new < workOf d.ports.length old := by
  cases h with
  | enter | answer | conclude =>
    simp only [workOf]
    omega
  | connect =>
    simp only [workOf, attempts, List.length_map]
    omega
  | complete hRest =>
    have hLength := hRest.length_eq
    rw [List.length_cons] at hLength
    simp only [workOf]
    omega

theorem work_step (d : Discovery) (around : Setting) (r : Round) (place choice : Nat) :
    r.step d around place choice = r ∨ (r.step d around place choice).work d < r.work d := by
  rcases step_cases d around r place choice with
    hSame | ⟨host, old, new, ended, hEntry, hAdvances, hStep⟩
  · exact .inl hSame
  · right
    have hSet : (r.step d around place choice).work d + workOf d.ports.length old =
        r.work d + workOf d.ports.length new := by
      rw [hStep]
      exact workLeft_set d.ports.length hEntry
    have hLess := hAdvances.workOf_lt
    omega

theorem ne_of_new_phase {checks : List Check} (hEntry : r.entries[place]? = some (host, old))
    (hNew : new ≠ old) : (⟨r.entries.set place (host, new), checks⟩ : Round) ≠ r := by
  intro hSame
  have hAt : (r.entries.set place (host, new))[place]? = some (host, old) :=
    (congrArg (fun r : Round => r.entries[place]?) hSame).trans hEntry
  rw [List.getElem?_set_self (List.getElem?_eq_some_iff.mp hEntry).1] at hAt
  exact hNew (Prod.mk.inj (Option.some.inj hAt)).2

/-- A check that is under way can always be brought on. -/
theorem step_ne_of_underway (hEntry : r.entries[place]? = some (host, old))
    (hUnderway : old.isUnderway = true) : r.step d around place 0 ≠ r := by
  cases old with
  | waiting | ended => cases hUnderway
  | pinging =>
    simp only [step, hEntry]
    split
    · exact ne_of_new_phase hEntry (by simp)
    · exact ne_of_new_phase hEntry (by simp)
  | sweeping out joined =>
    simp only [step, hEntry]
    split
    · exact ne_of_new_phase hEntry (by simp)
    · rename_i hSwept
      obtain ⟨a, rest, rfl⟩ := List.exists_cons_of_ne_nil fun hNil =>
        hSwept (isSwept_iff.mpr (.inr hNil))
      exact ne_of_new_phase hEntry (by simp)

/-- No round comes to a halt before all its checks have ended. -/
theorem exists_step_ne (around : Setting) (h : ¬ r.Finished) (hPermits : 0 < d.concurrency) :
    ∃ place choice, r.step d around place choice ≠ r := by
  by_cases hUnderway : ∃ entry ∈ r.entries, entry.2.isUnderway = true
  · obtain ⟨⟨host, phase⟩, hMem, hPhase⟩ := hUnderway
    obtain ⟨place, hEntry⟩ := List.mem_iff_getElem?.mp hMem
    exact ⟨place, 0, step_ne_of_underway hEntry hPhase⟩
  · have hNone : r.underway = 0 :=
      List.countP_eq_zero.mpr fun entry hMem hPhase => hUnderway ⟨entry, hMem, hPhase⟩
    simp only [Finished, not_forall, exists_prop] at h
    obtain ⟨⟨host, phase⟩, hMem, hPhase⟩ := h
    obtain ⟨place, hEntry⟩ := List.mem_iff_getElem?.mp hMem
    refine ⟨place, 0, ?_⟩
    cases phase with
    | ended => exact absurd rfl hPhase
    | pinging | sweeping => exact absurd ⟨_, hMem, rfl⟩ hUnderway
    | waiting =>
      simp only [step, hEntry, hNone, if_pos hPermits]
      exact ne_of_new_phase hEntry (by simp)

theorem exists_finished (hPermits : 0 < d.concurrency) (around : Setting) (r : Round) :
    ∃ schedule, (r.run d around schedule).Finished := by
  by_cases hFinished : r.Finished
  · exact ⟨[], hFinished⟩
  · obtain ⟨place, choice, hNe⟩ := exists_step_ne around hFinished hPermits
    have hLess := (work_step d around r place choice).resolve_left hNe
    obtain ⟨schedule, hEnd⟩ := exists_finished hPermits around (r.step d around place choice)
    exact ⟨(place, choice) :: schedule, hEnd⟩
termination_by r.work d

end ServiceProbe.Discovery.Round
