import ServiceProbe.Proofs.Registry.Consistency

/-! # Calls that must all succeed

A sequence of calls is performed up to its first failure. It succeeds exactly when every expression
can be read and no two probes share a name, whatever their order; the order only decides which
failure is met first. -/

namespace ServiceProbe.Registry
set_option autoImplicit false

def attempt (r : Registry) (c : Call) : Except Error Registry :=
  match r.call c with
  | (s, none) => .ok s
  | (_, some e) => .error e

def perform (calls : List Call) : Except Error Registry := calls.foldlM attempt empty

def registered? : Call → Option Probe
  | .register p => some p
  | .exclude _ => none

def expression? : Call → Option Text
  | .register _ => none
  | .exclude expression => some expression

def holds (port : Port) (expression : Text) : Bool :=
  (PortSet.parse expression).toOption.any fun added => added.contains port

theorem attempt_eq_ok_iff {r s : Registry} {c : Call} :
    r.attempt c = .ok s ↔ (r.call c).2 = none ∧ s = (r.call c).1 := by
  unfold attempt
  rcases r.call c with ⟨next, _ | e⟩ <;> simp [eq_comm]

theorem attempt_eq_error_iff {r : Registry} {c : Call} {e : Error} :
    r.attempt c = .error e ↔ (r.call c).2 = some e := by
  unfold attempt
  rcases r.call c with ⟨next, _ | e⟩ <;> simp

theorem perform_append (calls : List Call) (c? : Option Call) :
    perform (calls ++ c?.toList) = perform calls >>= fun r => c?.elim (pure r) r.attempt := by
  unfold perform
  rw [List.foldlM_append]
  cases c? with
  | none => rfl
  | some c => simp only [Option.toList_some, List.foldlM_cons, List.foldlM_nil, bind_pure, Option.elim_some]

theorem perform_concat_eq_ok_iff {calls : List Call} {c : Call} {s : Registry} :
    perform (calls ++ [c]) = .ok s ↔
      ∃ r, perform calls = .ok r ∧ (r.call c).2 = none ∧ s = (r.call c).1 := by
  have hAppend := perform_append calls (some c)
  rw [Option.toList_some] at hAppend
  rw [hAppend]
  cases perform calls with
  | error e => simp [bind, Except.bind]
  | ok r => simp [bind, Except.bind, attempt_eq_ok_iff]

theorem eq_afterCalls_of_perform {calls : List Call} {r : Registry} (h : perform calls = .ok r) :
    r = afterCalls calls := by
  induction calls using List.reverseRecOn generalizing r with
  | nil =>
    cases h
    rfl
  | append_singleton calls c ih =>
    obtain ⟨s, hs, _, hr⟩ := perform_concat_eq_ok_iff.mp h
    rw [hr, ih hs, afterCalls_concat]

theorem consistent_of_perform {calls : List Call} {r : Registry} (h : perform calls = .ok r) :
    r.Consistent :=
  eq_afterCalls_of_perform h ▸ consistent_afterCalls calls

theorem parts_of_perform {calls : List Call} {r : Registry} (h : perform calls = .ok r) :
    r.probes = calls.filterMap registered? ∧
      ∀ port, r.exclude.contains port = (calls.filterMap expression?).any (holds port) := by
  induction calls using List.reverseRecOn generalizing r with
  | nil =>
    cases h
    exact ⟨rfl, PortSet.contains_empty⟩
  | append_singleton calls c ih =>
    obtain ⟨s, hs, hNone, hr⟩ := perform_concat_eq_ok_iff.mp h
    obtain ⟨hProbes, hExclude⟩ := ih hs
    rw [List.filterMap_append, List.filterMap_append]
    cases c with
    | register p =>
      rw [call] at hNone hr
      rw [hr]
      refine ⟨?_, fun port => ?_⟩
      · rw [probes_register (consistent_of_perform hs) hNone, hProbes]
        rfl
      · rw [exclude_register, hExclude]
        simp [expression?]
    | exclude expression =>
      rw [call] at hNone hr
      rcases s.addExclude_cases expression with ⟨added, hParse, _, hCall⟩ | ⟨_, _, hCall⟩
      · rw [hr, hCall]
        refine ⟨?_, fun port => ?_⟩
        · have hNothing : [Call.exclude expression].filterMap registered? = [] := rfl
          rw [hNothing, List.append_nil]
          exact hProbes
        · rw [(PortSet.load_of_parse hParse _).2, hExclude, List.any_append]
          simp [expression?, holds, hParse, Except.toOption]
      · rw [hCall] at hNone
        cases hNone

/-- What a call says after calls of which none has failed. -/
def complaint (calls : List Call) : Call → Option Error
  | .register p =>
    if p.name ∈ (calls.filterMap registered?).map Probe.name then some (.duplicateProbe p.name)
    else none
  | .exclude expression =>
    match PortSet.parse expression with
    | .ok _ => none
    | .error fault => some (excludeError expression fault)

theorem call_error_of_perform {calls : List Call} {r : Registry} (h : perform calls = .ok r)
    (c : Call) : (r.call c).2 = complaint calls c := by
  cases c with
  | register p =>
    have hConsistent := consistent_of_perform h
    rw [call, register_error hConsistent, ← hConsistent.names_eq, (parts_of_perform h).1, complaint]
  | exclude expression => exact addExclude_error r expression

theorem exists_perform_concat_iff (calls : List Call) (c : Call) :
    (∃ s, perform (calls ++ [c]) = .ok s) ↔
      (∃ r, perform calls = .ok r) ∧ complaint calls c = none := by
  constructor
  · rintro ⟨s, hs⟩
    obtain ⟨r, hr, hNone, _⟩ := perform_concat_eq_ok_iff.mp hs
    exact ⟨⟨r, hr⟩, (call_error_of_perform hr c).symm.trans hNone⟩
  · rintro ⟨⟨r, hr⟩, hNone⟩
    have hCall := (call_error_of_perform hr c).trans hNone
    exact ⟨_, perform_concat_eq_ok_iff.mpr ⟨r, hr, hCall, rfl⟩⟩

theorem exists_perform_iff (calls : List Call) :
    (∃ r, perform calls = .ok r) ↔
      (∀ expression ∈ calls.filterMap expression?, ∃ added, PortSet.parse expression = .ok added) ∧
        ((calls.filterMap registered?).map Probe.name).Nodup := by
  induction calls using List.reverseRecOn with
  | nil => simp [perform, pure, Except.pure]
  | append_singleton calls c ih =>
    rw [exists_perform_concat_iff, ih, List.filterMap_append, List.filterMap_append]
    cases c with
    | register p =>
      have hLast : complaint calls (.register p) = none ↔
          p.name ∉ (calls.filterMap registered?).map Probe.name := by
        rw [complaint]
        split <;> rename_i hName <;> simp only [hName, reduceCtorEq, not_true, not_false_eq_true]
      simp only [hLast, List.filterMap_cons, List.filterMap_nil, registered?, expression?,
        List.append_nil, List.map_append, List.map_cons, List.map_nil, List.nodup_append,
        List.nodup_cons, List.not_mem_nil, not_false_eq_true, List.nodup_nil, and_self, true_and,
        List.mem_singleton, and_assoc]
      refine and_congr_right fun _ => and_congr_right fun _ => ?_
      exact ⟨fun hNew a ha b hb hab => hNew (hb ▸ hab ▸ ha), fun hNew hMem => hNew _ hMem _ rfl rfl⟩
    | exclude expression =>
      have hLast : complaint calls (.exclude expression) = none ↔
          ∃ added, PortSet.parse expression = .ok added := by
        rw [complaint]
        cases PortSet.parse expression <;> simp
      simp only [hLast, List.filterMap_cons, List.filterMap_nil, registered?, expression?,
        List.append_nil, List.forall_mem_append, List.forall_mem_singleton]
      exact and_right_comm

section

variable (events : Nat → Option Call)

/-- The calls that are due at the places before one. -/
def callsBefore (place : Nat) : List Call := (List.range place).filterMap events

def errorAt (place : Nat) : Option Error := (events place).bind (complaint (callsBefore events place))

def FailsFirst (place : Nat) (e : Error) : Prop :=
  errorAt events place = some e ∧ ∀ earlier < place, errorAt events earlier = none

variable {events}

theorem callsBefore_succ (place : Nat) :
    callsBefore events (place + 1) = callsBefore events place ++ (events place).toList := by
  rw [callsBefore, List.range_succ, List.filterMap_append, callsBefore]
  cases h : events place <;> simp [h]

theorem perform_callsBefore_eq_ok_iff {n : Nat} {r : Registry} :
    perform (callsBefore events n) = .ok r ↔
      (∀ place < n, errorAt events place = none) ∧ r = afterCalls (callsBefore events n) := by
  induction n generalizing r with
  | zero =>
    constructor
    · intro h
      cases h
      exact ⟨fun place hPlace => absurd hPlace (Nat.not_lt_zero place), rfl⟩
    · rintro ⟨_, rfl⟩
      rfl
  | succ n ih =>
    rw [callsBefore_succ]
    rw [Nat.forall_lt_succ_right]
    cases hEvent : events n with
    | none =>
      have hNone : errorAt events n = none := by rw [errorAt, hEvent]; rfl
      rw [Option.toList_none, List.append_nil, ih, and_iff_left hNone]
    | some c =>
      have hLast : errorAt events n = complaint (callsBefore events n) c := by
        rw [errorAt, hEvent]
        rfl
      rw [Option.toList_some, perform_concat_eq_ok_iff, hLast]
      constructor
      · rintro ⟨s, hs, hNone, rfl⟩
        rw [call_error_of_perform hs] at hNone
        obtain ⟨hBefore, rfl⟩ := ih.mp hs
        exact ⟨⟨hBefore, hNone⟩, (afterCalls_concat _ _).symm⟩
      · rintro ⟨⟨hBefore, hNone⟩, rfl⟩
        have hs := ih.mpr ⟨hBefore, rfl⟩
        exact ⟨_, hs, (call_error_of_perform hs c).trans hNone, afterCalls_concat _ _⟩

theorem perform_callsBefore_eq_error_iff {n : Nat} {e : Error} :
    perform (callsBefore events n) = .error e ↔ ∃ place < n, FailsFirst events place e := by
  induction n with
  | zero =>
    constructor
    · intro h
      cases h
    · rintro ⟨place, hPlace, _⟩
      exact absurd hPlace (Nat.not_lt_zero place)
  | succ n ih =>
    have hStep : perform (callsBefore events (n + 1)) = .error e ↔
        perform (callsBefore events n) = .error e ∨ FailsFirst events n e := by
      rw [callsBefore_succ, perform_append]
      cases hBefore : perform (callsBefore events n) with
      | error other =>
        have hNot : ¬ FailsFirst events n e := by
          rintro ⟨_, hNone⟩
          have hOk := perform_callsBefore_eq_ok_iff.mpr ⟨hNone, rfl⟩
          rw [hBefore] at hOk
          cases hOk
        simp only [bind, Except.bind, hNot, or_false]
      | ok r =>
        obtain ⟨hNone, _⟩ := perform_callsBefore_eq_ok_iff.mp hBefore
        simp only [bind, Except.bind, FailsFirst, errorAt, reduceCtorEq, false_or]
        cases events n with
        | none => simp [pure, Except.pure]
        | some c =>
          simp only [Option.elim_some, attempt_eq_error_iff, call_error_of_perform hBefore,
            Option.bind_some]
          exact (and_iff_left hNone).symm
    rw [hStep, ih, Nat.exists_lt_succ_right]

end

end ServiceProbe.Registry
