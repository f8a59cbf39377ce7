import Mathlib.Data.List.Basic
import ServiceProbe.Proofs.Rule.Finger
import ServiceProbe.Scanner

/-! # Rules in one list

A reply is matched against one list of rules, each with the name of its owner: those of the probe, and
then those of the probes that its fallback names resolve to. Only this list counts, so a fallback
probe is never asked for its own fallbacks, and a name that leads back to the probe or stands there
for the second time adds nothing. -/

namespace ServiceProbe.Scanner
set_option autoImplicit false

def owned (p : Probe) : List (String × Rule) := p.rules.map (p.name, ·)

def ownedUnder (r : Registry) (name : String) : List (String × Rule) :=
  ((r.probe? name).map owned).getD []

/-- All rules that a reply to a probe is matched against, in their order. -/
def rulesFor (r : Registry) (p : Probe) : List (String × Rule) :=
  owned p ++ p.fallback.flatMap (ownedUnder r)

variable {s t : Scanner} {p : Probe} {reply : Bytes} {finger : Finger}

theorem findSome?_owned (p : Probe) (reply : Bytes) :
    (owned p).findSome? (fun (owner, rule) => rule.finger? owner reply) = p.match? reply :=
  List.findSome?_map

theorem match?_eq_findSome? (s : Scanner) (p : Probe) (reply : Bytes) : s.match? p reply =
    (rulesFor s.registry p).findSome? fun (owner, rule) => rule.finger? owner reply := by
  rw [rulesFor, List.findSome?_append, findSome?_owned, match?]
  congr 1
  induction p.fallback with
  | nil => rfl
  | cons name names ih =>
    rw [List.flatMap_cons, List.findSome?_append, ownedUnder]
    cases hName : s.registry.probe? name with
    | none =>
      rw [List.filterMap_cons_none hName, ih]
      rfl
    | some fallback =>
      rw [List.filterMap_cons_some hName, List.findSome?_cons, Option.map_some, Option.getD_some,
        findSome?_owned, ih]
      cases fallback.match? reply <;> rfl

theorem match?_eq_find? (s : Scanner) (p : Probe) (reply : Bytes) : s.match? p reply =
    ((rulesFor s.registry p).find? fun (_, rule) => rule.isMatch reply).bind
      fun (owner, rule) => rule.finger? owner reply := by
  rw [match?_eq_findSome?]
  induction rulesFor s.registry p with
  | nil => rfl
  | cons x rules ih =>
    obtain ⟨owner, rule⟩ := x
    rw [List.findSome?_cons, List.find?_cons]
    dsimp only
    rw [← rule.isSome_finger? owner reply]
    cases hFinger : rule.finger? owner reply with
    | none => exact ih
    | some finger => exact hFinger.symm

theorem match?_eq_some_iff : s.match? p reply = some finger ↔ ∃ before owner rule after,
    rulesFor s.registry p = before ++ (owner, rule) :: after ∧
    (∀ x ∈ before, x.2.isMatch reply = false) ∧ rule.finger? owner reply = some finger := by
  rw [match?_eq_findSome?, List.findSome?_eq_some_iff]
  constructor
  · rintro ⟨before, ⟨owner, rule⟩, after, hRules, hFinger, hBefore⟩
    refine ⟨before, owner, rule, after, hRules, ?_, hFinger⟩
    intro x hx
    exact Rule.finger?_eq_none_iff.mp (hBefore x hx)
  · rintro ⟨before, owner, rule, after, hRules, hBefore, hFinger⟩
    refine ⟨before, (owner, rule), after, hRules, hFinger, ?_⟩
    intro x hx
    exact Rule.finger?_eq_none_iff.mpr (hBefore x hx)

theorem match?_eq_none_iff :
    s.match? p reply = none ↔ ∀ x ∈ rulesFor s.registry p, x.2.isMatch reply = false := by
  rw [match?_eq_findSome?, List.findSome?_eq_none_iff]
  exact forall₂_congr fun _ _ => Rule.finger?_eq_none_iff

/-! ## Names that add nothing -/

theorem rulesFor_congr
    (h : ∀ name ∈ p.fallback, ownedUnder t.registry name = ownedUnder s.registry name) :
    rulesFor t.registry p = rulesFor s.registry p := by
  unfold rulesFor
  rw [List.flatMap_congr h]

theorem findSome?_append_of_subset {α β : Type} {f : α → Option β} {before again after : List α}
    (h : ∀ x ∈ again, x ∈ before) :
    (before ++ after).findSome? f = (before ++ (again ++ after)).findSome? f := by
  rw [List.findSome?_append, List.findSome?_append]
  cases hBefore : before.findSome? f with
  | some b => rfl
  | none =>
    have hAgain : again.findSome? f = none := by
      rw [List.findSome?_eq_none_iff] at hBefore ⊢
      intro x hx
      exact hBefore x (h x hx)
    rw [List.findSome?_append, hAgain]
    rfl

theorem match?_without_name {before after : List String} {name : String}
    (hFallback : p.fallback = before ++ name :: after)
    (hName : name ∈ before ∨ s.registry.probe? name = none ∨ s.registry.probe? name = some p) :
    s.match? { p with fallback := before ++ after } reply = s.match? p reply := by
  have hTried : ∀ x ∈ ownedUnder s.registry name,
      x ∈ owned p ++ before.flatMap (ownedUnder s.registry) := by
    intro x hx
    rw [List.mem_append]
    rcases hName with hBefore | hMissing | hSelf
    · right
      exact List.mem_flatMap.mpr ⟨name, hBefore, hx⟩
    · rw [ownedUnder, hMissing] at hx
      cases hx
    · left
      rwa [ownedUnder, hSelf] at hx
  have hWhole : rulesFor s.registry p =
      (owned p ++ before.flatMap (ownedUnder s.registry)) ++
        (ownedUnder s.registry name ++ after.flatMap (ownedUnder s.registry)) := by
    rw [rulesFor, hFallback, List.flatMap_append, List.flatMap_cons, List.append_assoc]
  rw [match?_eq_findSome?, match?_eq_findSome?, hWhole, ← findSome?_append_of_subset hTried,
    rulesFor, List.flatMap_append, List.append_assoc]
  rfl

/-- Matching with fallbacks is a search for the first rule that matches in one list. Of a fallback
probe nothing but its name and its rules counts, and a name counts for nothing if it stood there
before, leads nowhere or leads back to the probe. -/
theorem reply_matched_by_first_rule (s : Scanner) (p : Probe) (reply : Bytes) :
    (s.match? p reply = ((rulesFor s.registry p).find? fun (_, rule) => rule.isMatch reply).bind
      fun (owner, rule) => rule.finger? owner reply) ∧
    (∀ finger, s.match? p reply = some finger → ∃ before owner rule after,
      rulesFor s.registry p = before ++ (owner, rule) :: after ∧
      (∀ x ∈ before, x.2.isMatch reply = false) ∧ rule.finger? owner reply = some finger ∧
      finger.probe = owner ∧ finger.service = rule.service ∧ finger.soft = (rule.kind == .soft)) ∧
    (s.match? p reply = none ↔ ∀ x ∈ rulesFor s.registry p, x.2.isMatch reply = false) ∧
    (∀ t : Scanner,
      (∀ name ∈ p.fallback, ownedUnder t.registry name = ownedUnder s.registry name) →
      t.match? p reply = s.match? p reply) ∧
    ∀ before name after, p.fallback = before ++ name :: after →
      (name ∈ before ∨ s.registry.probe? name = none ∨ s.registry.probe? name = some p) →
      s.match? { p with fallback := before ++ after } reply = s.match? p reply := by
  refine ⟨match?_eq_find? s p reply, ?_, match?_eq_none_iff, ?_, ?_⟩
  · intro finger hMatch
    obtain ⟨before, owner, rule, after, hRules, hBefore, hFinger⟩ := match?_eq_some_iff.mp hMatch
    exact ⟨before, owner, rule, after, hRules, hBefore, hFinger, Rule.heading_of_finger? hFinger⟩
  · intro t hSame
    rw [match?_eq_findSome?, match?_eq_findSome?, rulesFor_congr hSame]
  · intro before name after hFallback hName
    exact match?_without_name hFallback hName

end ServiceProbe.Scanner
