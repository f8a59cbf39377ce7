import Mathlib.Data.List.Induction
import ServiceProbe.Probe

/-! # Directives by kind

A directive changes one field of a probe, and what a list of directives leaves in a field depends on
those of its own kind alone: ports and rules gather, and of any other kind the last one stays. The
lines after a header come down to such a list. -/

namespace ServiceProbe.Probe
set_option autoImplicit false

namespace Directive

def rule? : Directive → Option Rule
  | rule r => some r
  | _ => none

def portRanges : Directive → List PortRange
  | ports ranges => ranges
  | _ => []

def sslPortRanges : Directive → List PortRange
  | sslPorts ranges => ranges
  | _ => []

def rarity? : Directive → Option Nat
  | rarity value => some value
  | _ => none

def totalWait? : Directive → Option Duration
  | totalWait wait => some wait
  | _ => none

def tcpWrapped? : Directive → Option Duration
  | tcpWrapped wait => some wait
  | _ => none

def fallback? : Directive → Option (List String)
  | fallback names => some names
  | _ => none

end Directive

def putAll (p : Probe) (ds : List Directive) : Probe := ds.foldl put p

theorem putAll_concat (p : Probe) (ds : List Directive) (d : Directive) :
    p.putAll (ds ++ [d]) = (p.putAll ds).put d := by
  simp [putAll]

theorem putAll_eq (p : Probe) (ds : List Directive) :
    p.putAll ds = { p with
      ports := (ds.flatMap Directive.portRanges).foldl PortSet.insertRange p.ports
      sslPorts := (ds.flatMap Directive.sslPortRanges).foldl PortSet.insertRange p.sslPorts
      rarity := (ds.filterMap Directive.rarity?).getLast?.or p.rarity
      totalWait := (ds.filterMap Directive.totalWait?).getLast?.or p.totalWait
      tcpWrapped := (ds.filterMap Directive.tcpWrapped?).getLast?.or p.tcpWrapped
      fallback := (ds.filterMap Directive.fallback?).getLast?.getD p.fallback
      rules := p.rules ++ ds.filterMap Directive.rule? } := by
  -- from the end, since a directive that comes later takes the place of those of its kind
  induction ds using List.reverseRecOn with
  | nil => simp [putAll]
  | append_singleton ds d ih =>
    rw [putAll_concat, ih]
    cases d <;>
      simp [put, List.filterMap_append, Directive.rule?, Directive.portRanges,
        Directive.sslPortRanges, Directive.rarity?, Directive.totalWait?, Directive.tcpWrapped?,
        Directive.fallback?]

def fault? (line : Text) : Option ProbeFault :=
  match readDirective line with
  | .ok _ => none
  | .error fault => some fault

/-- What a line does to a probe, if anything: a fallback line without names is refused, and does
what one with no names would. -/
def effect? (line : Text) : Option Directive :=
  match readDirective line with
  | .ok directive => some directive
  | .error .emptyFallback => some (.fallback [])
  | .error _ => none

theorem apply_eq (p : Probe) (line : Text) :
    p.apply line = ((effect? line).elim p p.put, fault? line) := by
  unfold apply effect? fault?
  cases readDirective line with
  | ok directive => rfl
  | error fault => cases fault <;> rfl

theorem applyAll_eq (p : Probe) (lines : List Text) :
    p.applyAll lines = (p.putAll (lines.filterMap effect?), lines.filterMap fault?) := by
  induction lines generalizing p with
  | nil => rfl
  | cons line rest ih =>
    rw [applyAll, apply_eq]
    simp only [ih]
    refine Prod.ext ?_ ?_
    · cases h : effect? line with
      | none => rw [Option.elim_none, List.filterMap_cons_none h]
      | some directive =>
        rw [Option.elim_some, List.filterMap_cons_some h, putAll, putAll, List.foldl_cons]
    · cases h : fault? line with
      | none => rw [Option.toList_none, List.nil_append, List.filterMap_cons_none h]
      | some fault => rw [Option.toList_some, List.singleton_append, List.filterMap_cons_some h]

theorem compile_of_header {header : Text} {p : Probe} (h : ofHeader header = .ok p)
    (body : List Text) : compile (header :: body) =
      .ok (p.putAll (body.filterMap effect?), body.filterMap fault?) := by
  rw [compile, h, Except.map, applyAll_eq]

end ServiceProbe.Probe
