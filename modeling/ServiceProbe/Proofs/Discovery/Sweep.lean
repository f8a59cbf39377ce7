import Mathlib.Data.List.Basic
import ServiceProbe.Discovery

/-! # Attempts in any order

What a check says of a host depends on which attempts to connect were accepted, refused or spoilt on
this side, and not on the order in which they were completed. A failure on this side that is met
before an accepted attempt does not win, and one that is met without any is not lost. The attempts
are what the network answers for the ports of the sweep, so a check is told by these answers. -/

namespace ServiceProbe.Discovery
set_option autoImplicit false

/-- The failure of an attempt that says nothing about the host. -/
def localFailure? : Attempt Unit → Option Failure
  | .failed f => if speaksOfHost f.kind then none else some f
  | _ => none

theorem localFailure?_eq_some_iff {a : Attempt Unit} {f : Failure} :
    localFailure? a = some f ↔ a = .failed f ∧ speaksOfHost f.kind = false := by
  cases a with
  | done value => simp [localFailure?]
  | expired => simp [localFailure?]
  | failed g =>
    rw [localFailure?, Attempt.failed.injEq]
    split
    · rename_i hSpeaks
      constructor
      · rintro ⟨⟩
      · rintro ⟨rfl, hNot⟩
        exact absurd hSpeaks (Bool.not_eq_true _ ▸ hNot)
    · rename_i hSpeaks
      rw [Option.some.injEq]
      constructor
      · rintro rfl
        exact ⟨rfl, Bool.eq_false_iff.mpr hSpeaks⟩
      · rintro ⟨rfl, _⟩
        rfl

/-- What a check may say of a host: it is up if it answered a ping or accepted an attempt, nothing is
known if neither happened and an attempt failed on this side, and else it is down. -/
structure Judges (pinged : Bool) (attempts : List (Attempt Unit)) (outcome : Except Failure Bool) :
    Prop where
  up_iff : outcome = .ok true ↔ pinged = true ∨ .done () ∈ attempts
  error_iff : (∃ f, outcome = .error f) ↔ ¬ (pinged = true ∨ .done () ∈ attempts) ∧
    ∃ f, .failed f ∈ attempts ∧ speaksOfHost f.kind = false
  down_iff : outcome = .ok false ↔ ¬ (pinged = true ∨ .done () ∈ attempts) ∧
    ¬ ∃ f, .failed f ∈ attempts ∧ speaksOfHost f.kind = false
  failure_mem : ∀ f, outcome = .error f → .failed f ∈ attempts ∧ speaksOfHost f.kind = false

variable {attempts joined out : List (Attempt Unit)} {failure : Option Failure}
  {pinged : Bool} {outcome : Except Failure Bool}

theorem sweep_of_accepted (failure : Option Failure) (h : .done () ∈ attempts) :
    sweep failure attempts = .ok true := by
  induction attempts generalizing failure with
  | nil => cases h
  | cons a rest ih =>
    cases a with
    | done value => rfl
    | failed f =>
      obtain hFirst | hRest := List.mem_cons.mp h
      · cases hFirst
      · exact ih _ hRest
    | expired =>
      obtain hFirst | hRest := List.mem_cons.mp h
      · cases hFirst
      · exact ih _ hRest

/-- Without an accepted attempt all of them are waited for, and the last failure on this side is what
the check comes to. -/
theorem sweep_of_none_accepted (failure : Option Failure) (h : .done () ∉ attempts) :
    sweep failure attempts =
      ((attempts.filterMap localFailure?).getLast?.or failure).elim (.ok false) .error := by
  induction attempts generalizing failure with
  | nil => cases failure <;> rfl
  | cons a rest ih =>
    have hRest : .done () ∉ rest := fun hMem => h (List.mem_cons_of_mem _ hMem)
    cases a with
    | done value => exact absurd List.mem_cons_self h
    | expired => exact ih failure hRest
    | failed f =>
      rw [sweep, ih _ hRest]
      cases hSpeaks : speaksOfHost f.kind with
      | true =>
        have hSkip : localFailure? (.failed f) = none := if_pos hSpeaks
        rw [List.filterMap_cons_none hSkip, if_pos rfl]
      | false =>
        have hKeep : localFailure? (.failed f) = some f := if_neg (Bool.eq_false_iff.mp hSpeaks)
        rw [List.filterMap_cons_some hKeep, if_neg Bool.false_ne_true]
        cases hLast : (rest.filterMap localFailure?).getLast? with
        | none => rw [List.getLast?_eq_none_iff.mp hLast]; rfl
        | some g => rw [List.getLast?_cons, hLast]; rfl

theorem mem_filterMap_localFailure? {f : Failure} : f ∈ attempts.filterMap localFailure? ↔
    .failed f ∈ attempts ∧ speaksOfHost f.kind = false := by
  simp only [List.mem_filterMap, localFailure?_eq_some_iff]
  constructor
  · rintro ⟨_, hMem, rfl, hLocal⟩
    exact ⟨hMem, hLocal⟩
  · rintro ⟨hMem, hLocal⟩
    exact ⟨_, hMem, rfl, hLocal⟩

theorem judges_pinged (attempts : List (Attempt Unit)) : Judges true attempts (.ok true) := by
  constructor <;> simp

theorem judges_sweep (attempts : List (Attempt Unit)) : Judges false attempts (sweep none attempts) := by
  by_cases hAccepted : .done () ∈ attempts
  · rw [sweep_of_accepted none hAccepted]
    constructor <;> simp [hAccepted]
  · rw [sweep_of_none_accepted none hAccepted, Option.or_none]
    cases hLast : (attempts.filterMap localFailure?).getLast? with
    | none =>
      have hNone : ¬ ∃ f, .failed f ∈ attempts ∧ speaksOfHost f.kind = false := by
        rintro ⟨f, hFailed⟩
        have hMem := mem_filterMap_localFailure?.mpr hFailed
        rw [List.getLast?_eq_none_iff.mp hLast] at hMem
        cases hMem
      constructor <;> simp [hAccepted, hNone]
    | some f =>
      have hFailed := mem_filterMap_localFailure?.mp (List.mem_of_getLast? hLast)
      have hSome : ∃ f, .failed f ∈ attempts ∧ speaksOfHost f.kind = false := ⟨f, hFailed⟩
      constructor
      · simp [hAccepted]
      · simp [hAccepted, hSome]
      · simp [hAccepted, hSome]
      · rintro _ ⟨⟩
        exact hFailed

theorem Judges.congr (h : Judges pinged joined outcome) (hSame : ∀ a, a ∈ joined ↔ a ∈ attempts) :
    Judges pinged attempts outcome := by
  obtain ⟨hUp, hError, hDown, hFailure⟩ := h
  simp only [hSame] at hUp hError hDown hFailure
  exact ⟨hUp, hError, hDown, hFailure⟩

/-- A sweep may end before all attempts are completed, once one of them has been accepted. -/
theorem judges_of_joined (h : (joined ++ out).Perm attempts) (hEnd : .done () ∈ joined ∨ out = []) :
    Judges false attempts (sweep none joined) := by
  rcases hEnd with hAccepted | rfl
  · rw [sweep_of_accepted none hAccepted, ← sweep_of_accepted none]
    · exact judges_sweep attempts
    · exact h.subset (List.mem_append_left _ hAccepted)
  · rw [List.append_nil] at h
    exact (judges_sweep joined).congr fun _ => h.mem_iff

theorem judges_isAlive (d : Discovery) (network : Network) (ping : Address → Bool) (host : Address) :
    Judges (d.icmp && ping host) (d.attempts network host) (d.isAlive network ping host) := by
  rw [isAlive, verdict]
  cases d.icmp && ping host with
  | true => exact judges_pinged _
  | false => exact judges_sweep _

/-! ## Answers of the network -/

/-- The kinds of failure that come from the host or from the way to it. -/
inductive IsRemote : FailureKind → Prop where
  | refused : IsRemote .connectionRefused
  | reset : IsRemote .connectionReset
  | aborted : IsRemote .connectionAborted
  | silent : IsRemote .timedOut
  | hostUnreachable : IsRemote .hostUnreachable
  | networkUnreachable : IsRemote .networkUnreachable

section

variable (d : Discovery) (network : Network) (ping : Address → Bool) (host : Address)

/-- What the network answers to an attempt to connect to a port of a host. -/
def answer (port : Port) : Attempt Connection :=
  network.connect ⟨⟨⟨host, 0⟩, port⟩, [], d.connectTimeout, d.connectTimeout⟩

/-- The host answers a ping, where pings are sent, or accepts a connection to a port of the sweep. -/
def Responds : Prop :=
  d.icmp = true ∧ ping host = true ∨ ∃ port ∈ d.ports, ∃ c, d.answer network host port = .done c

/-- An attempt to connect to a port of the sweep fails in a way that does not speak of the host. -/
def FailsHere (f : Failure) : Prop :=
  (∃ port ∈ d.ports, d.answer network host port = .failed f) ∧ ¬ IsRemote f.kind

/-- What a check says of a host, by what its ping and its ports answer. -/
structure Describes (outcome : Except Failure Bool) : Prop where
  up_iff : outcome = .ok true ↔ d.Responds network ping host
  error_iff : (∃ f, outcome = .error f) ↔
    ¬ d.Responds network ping host ∧ ∃ f, d.FailsHere network host f
  down_iff : outcome = .ok false ↔
    ¬ d.Responds network ping host ∧ ¬ ∃ f, d.FailsHere network host f
  failsHere : ∀ f, outcome = .error f → d.FailsHere network host f

end

variable {d : Discovery} {network : Network} {ping : Address → Bool} {host : Address} {f : Failure}

theorem speaksOfHost_iff {kind : FailureKind} : speaksOfHost kind = true ↔ IsRemote kind := by
  constructor
  · intro h
    cases kind with
    | connectionRefused => exact .refused
    | connectionReset => exact .reset
    | connectionAborted => exact .aborted
    | timedOut => exact .silent
    | hostUnreachable => exact .hostUnreachable
    | networkUnreachable => exact .networkUnreachable
    | invalidArgument | addressNotAvailable | other => cases h
  · rintro ⟨⟩ <;> rfl

theorem mem_attempts {a : Attempt Unit} : a ∈ d.attempts network host ↔
    ∃ port ∈ d.ports, (d.answer network host port).map (fun _ => ()) = a :=
  List.mem_map

theorem done_mem_attempts : .done () ∈ d.attempts network host ↔
    ∃ port ∈ d.ports, ∃ c, d.answer network host port = .done c := by
  rw [mem_attempts]
  refine exists_congr fun port => and_congr_right fun _ => ?_
  cases d.answer network host port <;> simp [Attempt.map]

theorem failed_mem_attempts :
    .failed f ∈ d.attempts network host ∧ speaksOfHost f.kind = false ↔ d.FailsHere network host f := by
  rw [mem_attempts, FailsHere, ← speaksOfHost_iff, Bool.not_eq_true]
  refine and_congr_left fun _ => exists_congr fun port => and_congr_right fun _ => ?_
  cases d.answer network host port <;> simp [Attempt.map]

theorem describes_iff : d.Describes network ping host outcome ↔
    Judges (d.icmp && ping host) (d.attempts network host) outcome := by
  have hResponds : d.Responds network ping host ↔
      (d.icmp && ping host) = true ∨ .done () ∈ d.attempts network host := by
    rw [Responds, done_mem_attempts, Bool.and_eq_true]
  constructor
  · rintro ⟨hUp, hError, hDown, hFails⟩
    simp only [hResponds, ← failed_mem_attempts] at hUp hError hDown hFails
    exact ⟨hUp, hError, hDown, hFails⟩
  · rintro ⟨hUp, hError, hDown, hFails⟩
    simp only [← hResponds, failed_mem_attempts] at hUp hError hDown hFails
    exact ⟨hUp, hError, hDown, hFails⟩

end ServiceProbe.Discovery
