import Mathlib.Data.List.Induction
import Mathlib.Data.List.Nodup
import ServiceProbe.Registry

/-! # Consistency of registries

The names of a registry, its entries, its table of ports and its excluded ports are kept apart. What
ties them to each other holds of the empty registry and outlasts every call, failed ones included,
and is all that users of a registry need to know of how it was built. -/

namespace ServiceProbe
set_option autoImplicit false

namespace PortSet

theorem contains_foldl_insertRange (ranges : List PortRange) (s : PortSet) (port : Port) :
    (ranges.foldl insertRange s).contains port =
      (s.contains port || ranges.any fun range => decide (range.Mem port)) := by
  induction ranges generalizing s with
  | nil => simp
  | cons range ranges ih =>
    rw [List.foldl_cons, ih, contains_insertRange, List.any_cons, Bool.or_assoc]

theorem filled_foldl_insertRange (ranges : List PortRange) (s : PortSet) :
    (ranges.foldl insertRange s).filled = s.filled := by
  induction ranges generalizing s with
  | nil => rfl
  | cons range ranges ih => exact ih (s.insertRange range)

theorem load_of_parse {t : Text} {added : PortSet} (h : parse t = .ok added) (s : PortSet) :
    (s.load t).2 = none ∧
      ∀ port, (s.load t).1.contains port = (s.contains port || added.contains port) := by
  unfold parse load at h
  unfold load
  cases hRead : PortExpression.read t with
  | error fault =>
    rw [hRead] at h
    cases h
  | ok ranges =>
    rw [hRead] at h
    cases h
    refine ⟨rfl, fun port => ?_⟩
    simp only [contains_foldl_insertRange, contains_empty, Bool.false_or]

theorem load_of_parse_error {t : Text} {fault : PortFault} (h : parse t = .error fault)
    (s : PortSet) : s.load t = (s, some fault) := by
  unfold parse load at h
  unfold load
  cases hRead : PortExpression.read t with
  | error other =>
    rw [hRead] at h
    cases h
    rfl
  | ok ranges =>
    rw [hRead] at h
    cases h

end PortSet

namespace Registry

inductive Call where
  | register (p : Probe)
  | exclude (expression : Text)

def call (r : Registry) : Call → Registry × Option Error
  | .register p => r.register p
  | .exclude expression => r.addExclude expression

/-- The registry that some calls make of the empty one. Calls that fail are passed over. -/
def afterCalls (calls : List Call) : Registry := calls.foldl (fun r c => (r.call c).1) empty

@[simp] theorem afterCalls_nil : afterCalls [] = empty := rfl

@[simp] theorem afterCalls_concat (calls : List Call) (c : Call) :
    afterCalls (calls ++ [c]) = ((afterCalls calls).call c).1 := by
  simp [afterCalls]

/-- What ties the parts of a registry to each other. -/
structure Consistent (r : Registry) : Prop where
  names_nodup : r.names.Nodup
  keys_perm : (r.entries.map Prod.fst).Perm r.names
  name_eq : ∀ name p, r.probe? name = some p → p.name = name
  dispatch_eq : ∀ port, r.dispatch port = (r.probes.filter fun p => p.appliesTo port).map Probe.name

def adding (r : Registry) (p : Probe) : Registry :=
  { r with
      names := r.names ++ [p.name]
      entries := (p.name, p) :: r.entries
      table := enlist r.table p.name (coverage p) }

theorem register_cases (r : Registry) (p : Probe) :
    (r.probe? p.name = none ∧ r.register p = (r.adding p, none)) ∨
      ((∃ q, r.probe? p.name = some q) ∧
        r.register p = (r, some (.duplicateProbe p.name))) := by
  unfold register
  cases h : r.probe? p.name with
  | none => exact .inl ⟨rfl, rfl⟩
  | some q => exact .inr ⟨⟨q, rfl⟩, rfl⟩

theorem addExclude_cases (r : Registry) (expression : Text) :
    (∃ added, PortSet.parse expression = .ok added ∧
        (r.addExclude expression).2 = none ∧
        (r.addExclude expression).1 = { r with exclude := (r.exclude.load expression).1 }) ∨
      ∃ fault, PortSet.parse expression = .error fault ∧
        r.addExclude expression = (r, some (excludeError expression fault)) := by
  unfold addExclude
  cases h : PortSet.parse expression with
  | ok added =>
    refine .inl ⟨added, rfl, ?_, rfl⟩
    simp only [(PortSet.load_of_parse h r.exclude).1, Option.map_none]
  | error fault =>
    refine .inr ⟨fault, rfl, ?_⟩
    rw [PortSet.load_of_parse_error h]
    rfl

theorem probe?_adding (r : Registry) (p : Probe) (name : String) :
    (r.adding p).probe? name = if name = p.name then some p else r.probe? name := by
  unfold probe? adding
  rw [List.lookup_cons]
  by_cases h : name = p.name
  · simp [h]
  · simp [h, beq_eq_false_iff_ne.mpr h]

theorem dispatch_adding (r : Registry) (p : Probe) (port : Port) :
    (r.adding p).dispatch port = r.dispatch port ++ if p.appliesTo port then [p.name] else [] := by
  simp only [dispatch, adding, enlist, Vector.getElem_mapIdx, UInt16.ofNat_toNat, contains_coverage]
  cases p.appliesTo port <;> simp

namespace Consistent

variable {r : Registry} {p : Probe} {name : String}

theorem mem_names_iff (h : r.Consistent) : name ∈ r.names ↔ ∃ p, r.probe? name = some p := by
  rw [← h.keys_perm.mem_iff, ← Option.isSome_iff_exists, probe?, List.lookup_isSome_iff]
  simp

theorem names_eq (h : r.Consistent) : r.probes.map Probe.name = r.names := by
  have hNames : ∀ name ∈ r.names, (r.probe? name).map Probe.name = some name := by
    intro name hName
    obtain ⟨p, hp⟩ := h.mem_names_iff.mp hName
    rw [hp, Option.map_some, h.name_eq name p hp]
  rw [probes, List.map_filterMap, List.filterMap_congr hNames, List.filterMap_some]

theorem probe?_eq_some_iff (h : r.Consistent) :
    r.probe? name = some p ↔ p ∈ r.probes ∧ p.name = name := by
  constructor
  · intro hp
    have hName := h.name_eq name p hp
    exact ⟨List.mem_filterMap.mpr ⟨name, h.mem_names_iff.mpr ⟨p, hp⟩, hp⟩, hName⟩
  · rintro ⟨hp, rfl⟩
    obtain ⟨name, _, hName⟩ := List.mem_filterMap.mp hp
    rwa [h.name_eq name p hName]

theorem probes_adding (h : r.Consistent) (hNew : r.probe? p.name = none) :
    (r.adding p).probes = r.probes ++ [p] := by
  have hOld : ∀ name ∈ r.names, (r.adding p).probe? name = r.probe? name := by
    intro name hName
    obtain ⟨q, hq⟩ := h.mem_names_iff.mp hName
    have hNe : name ≠ p.name := by
      rintro rfl
      rw [hNew] at hq
      cases hq
    rw [probe?_adding, if_neg hNe]
  have hLast : (r.adding p).probe? p.name = some p := by
    rw [probe?_adding, if_pos rfl]
  calc
    (r.adding p).probes = (r.names ++ [p.name]).filterMap (r.adding p).probe? := rfl
    _ = r.names.filterMap (r.adding p).probe? ++ [p] := by
      rw [List.filterMap_append, List.filterMap_cons_some hLast, List.filterMap_nil]
    _ = r.probes ++ [p] := by rw [List.filterMap_congr hOld, probes]

theorem adding (h : r.Consistent) (hNew : r.probe? p.name = none) : (r.adding p).Consistent where
  names_nodup := by
    have hName : p.name ∉ r.names := by
      intro hName
      obtain ⟨q, hq⟩ := h.mem_names_iff.mp hName
      rw [hNew] at hq
      cases hq
    exact List.nodup_append.mpr ⟨h.names_nodup, List.nodup_singleton _, fun a ha b hb hab =>
      hName (List.mem_singleton.mp hb ▸ hab ▸ ha)⟩
  keys_perm := (h.keys_perm.cons p.name).trans (List.perm_append_singleton p.name r.names).symm
  name_eq name q hq := by
    rw [probe?_adding] at hq
    split at hq
    · rename_i hName
      cases hq
      exact hName.symm
    · exact h.name_eq name q hq
  dispatch_eq port := by
    rw [dispatch_adding, h.dispatch_eq, h.probes_adding hNew, List.filter_append, List.map_append]
    cases hApplies : p.appliesTo port <;> simp [hApplies]

theorem call (h : r.Consistent) (c : Call) : (r.call c).1.Consistent := by
  cases c with
  | register p =>
    rcases r.register_cases p with ⟨hNew, hCall⟩ | ⟨_, hCall⟩
    · rw [Registry.call, hCall]
      exact h.adding hNew
    · rw [Registry.call, hCall]
      exact h
  | exclude expression =>
    rcases r.addExclude_cases expression with ⟨_, _, _, hCall⟩ | ⟨_, _, hCall⟩
    · rw [Registry.call, hCall]
      exact ⟨h.names_nodup, h.keys_perm, h.name_eq, h.dispatch_eq⟩
    · rw [Registry.call, hCall]
      exact h

end Consistent

theorem consistent_empty : empty.Consistent where
  names_nodup := List.nodup_nil
  keys_perm := List.Perm.refl _
  name_eq name p hp := by cases hp
  dispatch_eq port := by rw [dispatch_empty]; rfl

theorem consistent_afterCalls (calls : List Call) : (afterCalls calls).Consistent := by
  induction calls using List.reverseRecOn with
  | nil => exact consistent_empty
  | append_singleton calls c ih =>
    rw [afterCalls_concat]
    exact ih.call c

@[simp] theorem exclude_register (r : Registry) (p : Probe) :
    (r.register p).1.exclude = r.exclude := by
  rcases r.register_cases p with ⟨_, hCall⟩ | ⟨_, hCall⟩
  · rw [hCall, adding]
  · rw [hCall]

theorem filled_exclude_afterCalls (calls : List Call) : (afterCalls calls).exclude.filled = false := by
  induction calls using List.reverseRecOn with
  | nil => rfl
  | append_singleton calls c ih =>
    rw [afterCalls_concat]
    cases c with
    | register p => rwa [call, exclude_register]
    | exclude expression =>
      refine Eq.trans ?_ ih
      rw [call, addExclude, PortSet.load]
      cases PortExpression.read expression with
      | ok ranges => exact PortSet.filled_foldl_insertRange ranges _
      | error fault => rfl

/-- The call at a place has added an expression that holds the port. -/
def ExcludedBy (calls : List Call) (port : Port) (place : Nat) : Prop :=
  ∃ expression added, calls[place]? = some (.exclude expression) ∧
    ((afterCalls (calls.take place)).addExclude expression).2 = none ∧
    PortSet.parse expression = .ok added ∧ added.contains port = true

theorem excludedBy_concat_of_lt {calls : List Call} {c : Call} {port : Port} {place : Nat}
    (h : place < calls.length) :
    ExcludedBy (calls ++ [c]) port place ↔ ExcludedBy calls port place := by
  unfold ExcludedBy
  rw [List.getElem?_append_left h, List.take_append_of_le_length (Nat.le_of_lt h)]

theorem excludedBy_concat_last {calls : List Call} {c : Call} {port : Port} :
    ExcludedBy (calls ++ [c]) port calls.length ↔ ∃ expression added, c = .exclude expression ∧
      ((afterCalls calls).addExclude expression).2 = none ∧
      PortSet.parse expression = .ok added ∧ added.contains port = true := by
  unfold ExcludedBy
  rw [List.getElem?_concat_length, List.take_left]
  simp only [Option.some.injEq]

theorem ExcludedBy.lt {calls : List Call} {port : Port} {place : Nat}
    (h : ExcludedBy calls port place) : place < calls.length := by
  obtain ⟨_, _, hPlace, _⟩ := h
  exact (List.getElem?_eq_some_iff.mp hPlace).1

theorem exists_excludedBy_concat (calls : List Call) (c : Call) (port : Port) :
    (∃ place, ExcludedBy (calls ++ [c]) port place) ↔
      (∃ place, ExcludedBy calls port place) ∨ ExcludedBy (calls ++ [c]) port calls.length := by
  constructor
  · rintro ⟨place, h⟩
    have hLt := h.lt
    rw [List.length_append, List.length_singleton] at hLt
    rcases Nat.lt_succ_iff_lt_or_eq.mp hLt with hOld | rfl
    · exact .inl ⟨place, (excludedBy_concat_of_lt hOld).mp h⟩
    · exact .inr h
  · rintro (⟨place, h⟩ | h)
    · exact ⟨place, (excludedBy_concat_of_lt h.lt).mpr h⟩
    · exact ⟨calls.length, h⟩

theorem contains_exclude_afterCalls (calls : List Call) (port : Port) :
    (afterCalls calls).exclude.contains port = true ↔ ∃ place, ExcludedBy calls port place := by
  induction calls using List.reverseRecOn with
  | nil =>
    constructor
    · intro h
      rw [afterCalls_nil, empty, PortSet.contains_empty] at h
      cases h
    · rintro ⟨place, h⟩
      exact absurd h.lt (Nat.not_lt_zero place)
  | append_singleton calls c ih =>
    rw [exists_excludedBy_concat, ← ih, excludedBy_concat_last, afterCalls_concat]
    cases c with
    | register p =>
      rw [call, exclude_register]
      simp
    | exclude expression =>
      rcases (afterCalls calls).addExclude_cases expression with
        ⟨added, hParse, hNone, hCall⟩ | ⟨fault, hParse, hCall⟩
      · rw [call, hCall]
        simp only [(PortSet.load_of_parse hParse _).2, Bool.or_eq_true, Call.exclude.injEq]
        refine or_congr_right ⟨fun h => ⟨expression, added, rfl, hNone, hParse, h⟩, ?_⟩
        rintro ⟨_, other, rfl, _, hOther, h⟩
        rw [hParse] at hOther
        cases hOther
        exact h
      · rw [call, hCall]
        refine ⟨.inl, ?_⟩
        rintro (h | ⟨_, added, hSame, hNone, _⟩)
        · exact h
        · cases hSame
          rw [hCall] at hNone
          cases hNone

theorem call_of_error {r : Registry} {c : Call} {e : Error} (h : (r.call c).2 = some e) :
    (r.call c).1 = r := by
  cases c with
  | register p =>
    rw [call] at h ⊢
    rcases r.register_cases p with ⟨_, hCall⟩ | ⟨_, hCall⟩
    · rw [hCall] at h
      cases h
    · rw [hCall]
  | exclude expression =>
    rw [call] at h ⊢
    rcases r.addExclude_cases expression with ⟨_, _, hNone, _⟩ | ⟨_, _, hCall⟩
    · rw [hNone] at h
      cases h
    · rw [hCall]

theorem dispatch_nodup {r : Registry} (h : r.Consistent) (port : Port) : (r.dispatch port).Nodup := by
  have hNames : (r.probes.map Probe.name).Nodup := h.names_eq ▸ h.names_nodup
  rw [h.dispatch_eq]
  exact hNames.sublist (List.filter_sublist.map Probe.name)

theorem register_error {r : Registry} (h : r.Consistent) (p : Probe) :
    (r.register p).2 = if p.name ∈ r.names then some (.duplicateProbe p.name) else none := by
  rcases r.register_cases p with ⟨hNew, hCall⟩ | ⟨hTaken, hCall⟩
  · have hName : p.name ∉ r.names := by
      rw [h.mem_names_iff, hNew]
      rintro ⟨_, hSome⟩
      cases hSome
    rw [hCall, if_neg hName]
  · rw [hCall, if_pos (h.mem_names_iff.mpr hTaken)]

theorem probes_register {r : Registry} (h : r.Consistent) {p : Probe}
    (hOk : (r.register p).2 = none) : (r.register p).1.probes = r.probes ++ [p] := by
  rcases r.register_cases p with ⟨hNew, hCall⟩ | ⟨_, hCall⟩
  · rw [hCall]
    exact h.probes_adding hNew
  · rw [hCall] at hOk
    cases hOk

theorem addExclude_error (r : Registry) (expression : Text) :
    (r.addExclude expression).2 = match PortSet.parse expression with
      | .ok _ => none
      | .error fault => some (excludeError expression fault) := by
  rcases r.addExclude_cases expression with ⟨_, hParse, hNone, _⟩ | ⟨_, hParse, hCall⟩
  · rw [hParse, hNone]
  · rw [hParse, hCall]

/-- What holds of a registry whatever was called on it, and what the next call may do to it. -/
theorem afterCalls_invariant (calls : List Call) :
    let r := afterCalls calls
    r.names.Nodup ∧ (r.entries.map Prod.fst).Perm r.names ∧ r.probes.map Probe.name = r.names ∧
      (∀ name p, r.probe? name = some p → p.name = name) ∧
      (∀ port, port ≠ 0 → r.dispatch port = (r.probes.filter fun p =>
        p.isCatchAll || p.ports.contains port || p.sslPorts.contains port).map Probe.name) ∧
      (∀ port, (r.dispatch port).Nodup) ∧ r.dispatch 0 = [] ∧
      (∀ port, r.exclude.contains port = true ↔ ∃ place, ExcludedBy calls port place) ∧
      (∀ p, (r.register p).2 = if p.name ∈ r.names then some (.duplicateProbe p.name) else none) ∧
      (∀ p, (r.register p).2 = none → (r.register p).1.probes = r.probes ++ [p]) ∧
      (∀ expression, (r.addExclude expression).2 = match PortSet.parse expression with
        | .ok _ => none
        | .error fault => some (excludeError expression fault)) ∧
      ∀ c e, (r.call c).2 = some e → (r.call c).1 = r := by
  intro r
  have h : r.Consistent := consistent_afterCalls calls
  refine ⟨h.names_nodup, h.keys_perm, h.names_eq, h.name_eq, ?_, dispatch_nodup h, ?_,
    contains_exclude_afterCalls calls, register_error h, fun p => probes_register h,
    addExclude_error r, fun c e => call_of_error⟩
  · intro port hPort
    rw [h.dispatch_eq]
    simp only [Probe.appliesTo, bne_iff_ne.mpr hPort, Bool.true_and]
  · rw [h.dispatch_eq]
    simp [Probe.appliesTo]

end Registry
end ServiceProbe
