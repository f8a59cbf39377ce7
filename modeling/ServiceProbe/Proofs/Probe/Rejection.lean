import Mathlib.Data.List.Basic
import ServiceProbe.Proofs.Probe.Header

/-! # Refused lines

A probe is compared with the one that its header and its accepted lines make alone. Refused lines
leave no trace, with one exception: a fallback line without names is refused, and takes the names of
the fallback lines before it away. -/

namespace ServiceProbe.Probe
set_option autoImplicit false

def accepts (line : Text) : Bool := (fault? line).isNone

namespace Directive

def isNameless : Directive → Bool
  | fallback names => names.isEmpty
  | _ => false

end Directive

/-- The names on a fallback line. A refused one has none. -/
def fallbackNames? (line : Text) : Option (List String) := (effect? line).bind Directive.fallback?

theorem exists_of_map_eq_ok {ε α β : Type} {x : Except ε α} {f : α → β} {b : β}
    (h : x.map f = .ok b) : ∃ a, x = .ok a ∧ f a = b := by
  cases x with
  | error e => cases h
  | ok a => exact ⟨a, rfl, Except.ok.inj h⟩

theorem isEmpty_of_readNames {argument : Text} {names : List String}
    (h : readNames argument = .ok names) : names.isEmpty = false := by
  simp only [readNames] at h
  split at h
  · cases h
  · rename_i hNames
    cases h
    simpa using hNames

theorem readNames_of_readDirective {line : Text} {names : List String}
    (h : readDirective line = .ok (.fallback names)) :
    readNames (keywordAndArgument line.trim).2 = .ok names := by
  simp only [readDirective] at h
  iterate 6
    split at h
    · obtain ⟨_, _, hOther⟩ := exists_of_map_eq_ok h
      cases hOther
  split at h
  · obtain ⟨_, hNames, hSame⟩ := exists_of_map_eq_ok h
    cases hSame
    exact hNames
  · cases h

theorem isNameless_of_readDirective {line : Text} {d : Directive}
    (h : readDirective line = .ok d) : d.isNameless = false := by
  cases d with
  | fallback names => exact isEmpty_of_readNames (readNames_of_readDirective h)
  | _ => rfl

theorem filterMap_effect?_filter_accepts (body : List Text) :
    (body.filter accepts).filterMap effect? =
      (body.filterMap effect?).filter fun d => !d.isNameless := by
  rw [List.filterMap_filter, List.filter_filterMap]
  apply List.filterMap_congr
  intro line _
  cases h : readDirective line with
  | ok directive =>
    simp [accepts, fault?, effect?, h, Option.filter, isNameless_of_readDirective h]
  | error fault =>
    cases fault <;> simp [accepts, fault?, effect?, h, Option.filter, Directive.isNameless]

theorem filterMap_fault?_filter_accepts (body : List Text) :
    (body.filter accepts).filterMap fault? = [] := by
  apply List.filterMap_eq_nil_iff.mpr
  intro line hLine
  exact Option.isNone_iff_eq_none.mp (List.mem_filter.mp hLine).2

theorem putAll_filter_isNameless (p : Probe) (ds : List Directive) :
    p.putAll ds = { p.putAll (ds.filter fun d => !d.isNameless) with
      fallback := (p.putAll ds).fallback } := by
  induction ds using List.reverseRecOn with
  | nil => rfl
  | append_singleton ds d ih =>
    rw [List.filter_append, List.filter_singleton, putAll_concat]
    generalize p.putAll ds = all at ih ⊢
    rw [ih]
    cases h : d.isNameless with
    | true =>
      cases d with
      | fallback names => simp [put]
      | _ => cases h
    | false =>
      simp only [Bool.not_false, cond_true, putAll_concat]
      cases d <;> simp [put]

theorem filterMap_fallback?_effect? (lines : List Text) :
    (lines.filterMap effect?).filterMap Directive.fallback? = lines.filterMap fallbackNames? :=
  List.filterMap_filterMap ..

theorem filterMap_fallbackNames?_filter_accepts (body : List Text) :
    (body.filter accepts).filterMap fallbackNames? =
      (body.filterMap fallbackNames?).filter fun names => !names.isEmpty := by
  rw [← filterMap_fallback?_effect?, ← filterMap_fallback?_effect?,
    filterMap_effect?_filter_accepts, List.filterMap_filter, List.filter_filterMap]
  apply List.filterMap_congr
  intro d _
  cases d <;> simp [Directive.isNameless, Directive.fallback?, Option.filter]

/-- The last of some lists, if any, is the last of those that are not empty, or both come to nothing,
unless it is empty and another one is not. -/
theorem getLast?_filter_getD_eq_iff (lists : List (List String)) :
    lists.getLast?.getD [] = (lists.filter fun names => !names.isEmpty).getLast?.getD [] ↔
      (lists.getLast? = some [] → ∀ names ∈ lists, names = []) := by
  induction lists using List.reverseRecOn with
  | nil => simp
  | append_singleton lists last _ =>
    cases last with
    | cons name names => simp [List.filter_append]
    | nil =>
      have hLast : ∀ kept : List (List String), (∀ names ∈ kept, names ≠ []) →
          ([] = kept.getLast?.getD [] ↔ kept = []) := by
        intro kept hKept
        cases h : kept.getLast? with
        | none => simp [List.getLast?_eq_none_iff.mp h]
        | some names =>
          have hMem := List.mem_of_getLast? h
          simp [(hKept names hMem).symm, List.ne_nil_of_mem hMem]
      simp only [List.getLast?_concat, Option.getD_some, List.filter_append, List.filter_singleton,
        List.isEmpty_nil, Bool.not_true, cond_false, List.append_nil, forall_const]
      rw [hLast _ (by simp)]
      simp [List.filter_eq_nil_iff, or_imp]

theorem lists_of_ofHeader {header : Text} {p : Probe} (h : ofHeader header = .ok p) :
    p.fallback = [] ∧ p.rules = [] := by
  obtain ⟨_, _, _, _, _, _, rfl⟩ := exists_declares_of_ofHeader h
  exact ⟨rfl, rfl⟩

theorem fallback_of_ofHeader {header : Text} {p : Probe} (h : ofHeader header = .ok p) :
    p.fallback = [] :=
  (lists_of_ofHeader h).1

/-- What the refused lines after an accepted header do to the probe: nothing to any field but the
fallback names, and to those only where a fallback line without names comes last of its kind. -/
theorem compile_filter_accepts (header : Text) (body : List Text) (declared : Probe)
    (hHeader : ofHeader header = .ok declared) :
    (∀ (p : Probe) line, (p.apply line).2.isNone = accepts line) ∧
      ∃ p q, compile (header :: body) = .ok (p, body.filterMap fault?) ∧
        compile (header :: body.filter accepts) = .ok (q, []) ∧
        p = { q with fallback := p.fallback } ∧
        p.fallback = (body.filterMap fallbackNames?).getLast?.getD [] ∧
        q.fallback = ((body.filterMap fallbackNames?).filter fun names =>
          !names.isEmpty).getLast?.getD [] ∧
        (p = q ↔ ((body.filterMap fallbackNames?).getLast? = some [] →
          ∀ names ∈ body.filterMap fallbackNames?, names = [])) := by
  have hFallback : ∀ lines : List Text, (declared.putAll (lines.filterMap effect?)).fallback =
      (lines.filterMap fallbackNames?).getLast?.getD [] := by
    intro lines
    simp only [putAll_eq, fallback_of_ofHeader hHeader, filterMap_fallback?_effect?]
  have hKept : compile (header :: body.filter accepts) =
      .ok (declared.putAll ((body.filter accepts).filterMap effect?), []) := by
    rw [compile_of_header hHeader, filterMap_fault?_filter_accepts]
  have hSame : declared.putAll (body.filterMap effect?) =
      { declared.putAll ((body.filter accepts).filterMap effect?) with
        fallback := (declared.putAll (body.filterMap effect?)).fallback } := by
    rw [filterMap_effect?_filter_accepts]
    exact putAll_filter_isNameless declared _
  have hNamed := hFallback (body.filter accepts)
  rw [filterMap_fallbackNames?_filter_accepts] at hNamed
  refine ⟨fun p line => by rw [apply_eq, accepts], _, _, compile_of_header hHeader body, hKept,
    hSame, hFallback body, hNamed, ?_⟩
  rw [← getLast?_filter_getD_eq_iff, ← hFallback body, ← hNamed]
  constructor
  · intro hEq
    rw [hEq]
  · intro hNames
    rw [hSame, hNames]

/-- A fallback line, and one that is refused. -/
theorem compile_filter_accepts_nameless :
    let body := ["fallback B".toList, "fallback ,".toList]
    ∃ p q, compile ("Probe TCP A q||".toList :: body) = .ok (p, [.emptyFallback]) ∧
      compile ("Probe TCP A q||".toList :: body.filter accepts) = .ok (q, []) ∧
      p = { q with fallback := [] } ∧ q.fallback = ["B"] := by
  intro body
  have hHeader : ∃ declared, ofHeader "Probe TCP A q||".toList = .ok declared := ⟨_, rfl⟩
  obtain ⟨declared, hHeader⟩ := hHeader
  obtain ⟨_, p, q, hAll, hKept, hSame, hp, hq, _⟩ :=
    compile_filter_accepts "Probe TCP A q||".toList body declared hHeader
  have hNone : p.fallback = [] := hp
  exact ⟨p, q, hAll, hKept, hNone ▸ hSame, hq⟩

theorem not_refused_line_without_effect :
    ¬ ∀ (header : Text) (body : List Text) (declared : Probe), ofHeader header = .ok declared →
      (compile (header :: body)).map (·.1) = (compile (header :: body.filter accepts)).map (·.1) := by
  intro h
  have hSame := h "Probe TCP A q||".toList ["fallback B".toList, "fallback ,".toList] _ rfl
  have hNames : ([] : List String) = ["B"] :=
    congrArg (fun x => (x.toOption.map Probe.fallback).getD []) hSame
  cases hNames

end ServiceProbe.Probe
