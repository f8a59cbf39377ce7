import Mathlib.Data.List.Basic
import ServiceProbe.Proofs.Database.FirstWord
import ServiceProbe.Proofs.Probe.Rejection

/-! # Lines in another order

A directive line is told by its first word to be about one field of a probe, and it leaves all other
fields alone, whether it is accepted or refused. The lines about one field therefore make what they
make whatever stands between them, and the sets of ports do not depend on any order. -/

namespace ServiceProbe
set_option autoImplicit false

theorem PortSet.insertRange_comm (s : PortSet) (q r : PortRange) :
    (s.insertRange q).insertRange r = (s.insertRange r).insertRange q := by
  have hDigits : s.digits ||| q.mask ||| r.mask = s.digits ||| r.mask ||| q.mask := by
    rw [Nat.or_assoc, Nat.or_comm q.mask, ← Nat.or_assoc]
  simp only [insertRange, hDigits]

theorem PortSet.foldl_insertRange_of_perm {ranges ranges' : List PortRange}
    (h : ranges.Perm ranges') (s : PortSet) :
    ranges.foldl insertRange s = ranges'.foldl insertRange s := by
  apply h.foldl_eq'
  intro q _ r _ t
  exact insertRange_comm t q r

namespace Probe

/-- A field of a probe that lines after the header are about. -/
inductive Slot where
  | ports
  | sslPorts
  | rarity
  | totalWait
  | tcpWrapped
  | fallback
  | rules
  deriving DecidableEq

namespace Slot

def words : Slot → List Text
  | ports => ["ports".toList]
  | sslPorts => ["sslports".toList]
  | rarity => ["rarity".toList]
  | totalWait => ["totalwaitms".toList]
  | tcpWrapped => ["tcpwrappedms".toList]
  | fallback => ["fallback".toList]
  | rules => ["match".toList, "softmatch".toList]

/-- The line is about the field, to judge by its first word. -/
def isNamedBy (slot : Slot) (line : Text) : Bool :=
  (Database.firstWord? line).any slot.words.contains

/-- Of other fields than the sets of ports, it matters which line comes later. -/
def isOrdered : Slot → Bool
  | ports | sslPorts => false
  | _ => true

def Agrees (p q : Probe) : Slot → Prop
  | ports => p.ports = q.ports
  | sslPorts => p.sslPorts = q.sslPorts
  | rarity => p.rarity = q.rarity
  | totalWait => p.totalWait = q.totalWait
  | tcpWrapped => p.tcpWrapped = q.tcpWrapped
  | fallback => p.fallback = q.fallback
  | rules => p.rules = q.rules

end Slot

def Directive.slot? : Directive → Option Slot
  | .rule _ => some .rules
  | .ports _ => some .ports
  | .sslPorts _ => some .sslPorts
  | .rarity _ => some .rarity
  | .totalWait _ => some .totalWait
  | .tcpWrapped _ => some .tcpWrapped
  | .fallback _ => some .fallback
  | .nothing => none

variable {line : Text} {body body' : List Text} {d : Directive} {slot : Slot}

/-! ## What a line is about -/

theorem isNamedBy_of_keyword {word : Text} (hWord : word ∈ slot.words)
    (h : (keywordAndArgument line.trim).1 = word) : slot.isNamedBy line = true := by
  rw [Database.keyword_of_trim] at h
  unfold Slot.isNamedBy
  cases hFirst : Database.firstWord? line with
  | none =>
    -- no line without a word has a keyword
    rw [hFirst, Option.getD_none] at h
    subst h
    cases slot <;> simp [Slot.words] at hWord
  | some first =>
    rw [hFirst, Option.getD_some] at h
    rw [Option.any_some, h, List.contains_iff_mem]
    exact hWord

theorem mapError_ne {α ε : Type} {f : ε → ProbeFault} (h : ∀ e, f e ≠ .emptyFallback)
    (x : Except ε α) : x.mapError f ≠ .error .emptyFallback := by
  cases x with
  | ok a => exact nofun
  | error e => exact fun hEq => h e (Except.error.inj hEq)

theorem orFault_ne {α : Type} {fault : ProbeFault} (h : fault ≠ .emptyFallback) (o : Option α) :
    orFault fault o ≠ .error .emptyFallback := by
  cases o with
  | none => exact fun hEq => h (Except.error.inj hEq)
  | some a => exact nofun

/-- A line that is accepted has a directive about the field it names, or none at all. One that is
refused for its lack of names is a fallback line. -/
structure Concerns (line : Text) (slot : Slot) (result : Except ProbeFault Directive) : Prop where
  named : slot.isNamedBy line = true
  slot_of_ok : ∀ d, result = .ok d → d.slot? = some slot
  slot_of_empty : result = .error .emptyFallback → slot = .fallback

theorem concerns_of_keyword {α : Type} {x : Except ProbeFault α} {f : α → Directive} {word : Text}
    (hKeyword : (keywordAndArgument line.trim).1 = word) (hWord : word ∈ slot.words)
    (hSlot : ∀ a, (f a).slot? = some slot)
    (hFault : x = .error .emptyFallback → slot = .fallback) : Concerns line slot (x.map f) where
  named := isNamedBy_of_keyword hWord hKeyword
  slot_of_ok d h := by
    obtain ⟨a, _, rfl⟩ := exists_of_map_eq_ok h
    exact hSlot a
  slot_of_empty h := by
    apply hFault
    cases x with
    | ok a => cases h
    | error fault => exact congrArg Except.error (Except.error.inj h)

theorem readDirective_cases (line : Text) :
    (∃ slot, Concerns line slot (readDirective line)) ∨ readDirective line = .ok .nothing := by
  have hAbsurd {α : Type} {x : Except ProbeFault α} {slot : Slot} (h : x ≠ .error .emptyFallback) :
      x = .error .emptyFallback → slot = .fallback := fun hEq => absurd hEq h
  simp only [readDirective]
  split
  · rename_i hKeyword
    rw [Bool.or_eq_true, decide_eq_true_eq, decide_eq_true_eq] at hKeyword
    have hFault := mapError_ne (f := ProbeFault.rule) (by simp) (Rule.compile line.trim)
    rcases hKeyword with hKeyword | hKeyword
    · exact .inl ⟨.rules, concerns_of_keyword hKeyword (by decide) (fun _ => rfl) (hAbsurd hFault)⟩
    · exact .inl ⟨.rules, concerns_of_keyword hKeyword (by decide) (fun _ => rfl) (hAbsurd hFault)⟩
  split
  · rename_i hKeyword
    exact .inl ⟨.ports, concerns_of_keyword hKeyword (by decide) (fun _ => rfl)
      (hAbsurd (mapError_ne (by simp) _))⟩
  split
  · rename_i hKeyword
    exact .inl ⟨.sslPorts, concerns_of_keyword hKeyword (by decide) (fun _ => rfl)
      (hAbsurd (mapError_ne (by simp) _))⟩
  split
  · rename_i hKeyword
    exact .inl ⟨.rarity, concerns_of_keyword hKeyword (by decide) (fun _ => rfl)
      (hAbsurd (orFault_ne (by simp) _))⟩
  split
  · rename_i hKeyword
    exact .inl ⟨.totalWait, concerns_of_keyword hKeyword (by decide) (fun _ => rfl)
      (hAbsurd (orFault_ne (by simp) _))⟩
  split
  · rename_i hKeyword
    exact .inl ⟨.tcpWrapped, concerns_of_keyword hKeyword (by decide) (fun _ => rfl)
      (hAbsurd (orFault_ne (by simp) _))⟩
  split
  · rename_i hKeyword
    exact .inl ⟨.fallback, concerns_of_keyword hKeyword (by decide) (fun _ => rfl) fun _ => rfl⟩
  · exact .inr rfl

theorem isNamedBy_of_effect? (h : effect? line = some d) (hSlot : d.slot? = some slot) :
    slot.isNamedBy line = true := by
  obtain ⟨named, hConcerns⟩ | hNothing := readDirective_cases line
  · have hEq : named = slot := by
      unfold effect? at h
      split at h
      · rename_i directive hOk
        cases h
        exact Option.some.inj ((hConcerns.slot_of_ok d hOk).symm.trans hSlot)
      · rename_i hEmpty
        cases h
        exact (hConcerns.slot_of_empty hEmpty).trans (Option.some.inj hSlot)
      · cases h
    exact hEq ▸ hConcerns.named
  · rw [effect?, hNothing] at h
    cases h
    cases hSlot

/-! ## What a line leaves alone -/

theorem Slot.Agrees.refl (p : Probe) (slot : Slot) : slot.Agrees p p := by
  cases slot <;> rfl

theorem agrees_put (p : Probe) (h : d.slot? ≠ some slot) : slot.Agrees (p.put d) p := by
  cases d <;> cases slot <;> simp [Directive.slot?, Slot.Agrees, put] at h ⊢

theorem heading_put (p : Probe) (d : Directive) :
    (p.put d).name = p.name ∧ (p.put d).protocol = p.protocol ∧ (p.put d).payload = p.payload := by
  cases d <;> exact ⟨rfl, rfl, rfl⟩

theorem apply_frame (p : Probe) (line : Text) :
    ((p.apply line).1.name = p.name ∧ (p.apply line).1.protocol = p.protocol ∧
        (p.apply line).1.payload = p.payload) ∧
      ∀ slot : Slot, slot.isNamedBy line = false → slot.Agrees (p.apply line).1 p := by
  rw [apply_eq]
  cases hEffect : effect? line with
  | none => exact ⟨⟨rfl, rfl, rfl⟩, fun slot _ => .refl p slot⟩
  | some d =>
    refine ⟨heading_put p d, fun slot hNot => agrees_put p fun hSlot => ?_⟩
    rw [isNamedBy_of_effect? hEffect hSlot] at hNot
    cases hNot

/-! ## Reordering -/

theorem filterMap_effect?_filter_isNamedBy {α : Type} {f : Directive → Option α}
    (hf : ∀ d, d.slot? ≠ some slot → f d = none) (lines : List Text) :
    (lines.filterMap effect?).filterMap f =
      ((lines.filter slot.isNamedBy).filterMap effect?).filterMap f := by
  rw [List.filterMap_filterMap, List.filterMap_filterMap, List.filterMap_filter]
  apply List.filterMap_congr
  intro line _
  split
  · rfl
  · rename_i hNot
    cases hEffect : effect? line with
    | none => rfl
    | some d => exact hf d fun hSlot => hNot (isNamedBy_of_effect? hEffect hSlot)

/-- The lines stand in another order, in which those about one field keep theirs, but for the
fields whose value does not depend on it. -/
structure Reordered (body body' : List Text) : Prop where
  perm : body.Perm body'
  kept : ∀ slot : Slot, slot.isOrdered = true →
    body.filter slot.isNamedBy = body'.filter slot.isNamedBy

theorem Directive.eq_none_of_slot? (d : Directive) :
    (d.slot? ≠ some .rarity → d.rarity? = none) ∧
      (d.slot? ≠ some .totalWait → d.totalWait? = none) ∧
      (d.slot? ≠ some .tcpWrapped → d.tcpWrapped? = none) ∧
      (d.slot? ≠ some .fallback → d.fallback? = none) ∧
      (d.slot? ≠ some .rules → d.rule? = none) := by
  cases d <;> simp [slot?, rarity?, totalWait?, tcpWrapped?, fallback?, rule?]

theorem Reordered.filterMap_effect? {α : Type} {f : Directive → Option α} (h : Reordered body body')
    (slot : Slot) (hOrdered : slot.isOrdered = true) (hf : ∀ d, d.slot? ≠ some slot → f d = none) :
    (body.filterMap effect?).filterMap f = (body'.filterMap effect?).filterMap f := by
  rw [filterMap_effect?_filter_isNamedBy hf body, h.kept slot hOrdered,
    ← filterMap_effect?_filter_isNamedBy hf body']

theorem Reordered.putAll_eq (h : Reordered body body') (p : Probe) :
    p.putAll (body.filterMap effect?) = p.putAll (body'.filterMap effect?) := by
  have hEffects := h.perm.filterMap effect?
  have hPorts :=
    PortSet.foldl_insertRange_of_perm (hEffects.flatMap_right Directive.portRanges) p.ports
  have hSslPorts :=
    PortSet.foldl_insertRange_of_perm (hEffects.flatMap_right Directive.sslPortRanges) p.sslPorts
  have hRarity := h.filterMap_effect? .rarity rfl fun d => d.eq_none_of_slot?.1
  have hTotalWait := h.filterMap_effect? .totalWait rfl fun d => d.eq_none_of_slot?.2.1
  have hTcpWrapped := h.filterMap_effect? .tcpWrapped rfl fun d => d.eq_none_of_slot?.2.2.1
  have hFallback := h.filterMap_effect? .fallback rfl fun d => d.eq_none_of_slot?.2.2.2.1
  have hRules := h.filterMap_effect? .rules rfl fun d => d.eq_none_of_slot?.2.2.2.2
  rw [Probe.putAll_eq, Probe.putAll_eq, hPorts, hSslPorts, hRarity, hTotalWait, hTcpWrapped,
    hFallback, hRules]

/-- Directives about different fields commute. Lines after an accepted header that are put in
another order make the same probe and are refused for the same reasons, and each of them, accepted
or not, leaves every field alone that it does not name. -/
theorem compile_of_reordered {header : Text} {declared : Probe}
    (hHeader : ofHeader header = .ok declared) (h : Reordered body body') :
    (∃ p faults faults', compile (header :: body) = .ok (p, faults) ∧
        compile (header :: body') = .ok (p, faults') ∧ faults.Perm faults') ∧
      ∀ (p : Probe) line,
        ((p.apply line).1.name = p.name ∧ (p.apply line).1.protocol = p.protocol ∧
          (p.apply line).1.payload = p.payload) ∧
        ∀ slot : Slot, slot.isNamedBy line = false → slot.Agrees (p.apply line).1 p := by
  constructor
  · refine ⟨declared.putAll (body.filterMap effect?), body.filterMap fault?, body'.filterMap fault?,
      compile_of_header hHeader body, ?_, h.perm.filterMap fault?⟩
    rw [h.putAll_eq declared]
    exact compile_of_header hHeader body'
  · exact apply_frame

/-- Two lines about the ports change places, and so do lines about different fields. -/
theorem compile_of_reordered_ports :
    let body :=
      ["rarity 3", "ports 80", "match b", "fallback B", "rarity 5", "ports 1-2"].map String.toList
    let body' :=
      ["ports 1-2", "fallback B", "rarity 3", "rarity 5", "match b", "ports 80"].map String.toList
    ∃ p faults faults', compile ("Probe TCP A q||".toList :: body) = .ok (p, faults) ∧
      compile ("Probe TCP A q||".toList :: body') = .ok (p, faults') ∧ faults.Perm faults' ∧
      p.rarity = some 5 := by
  intro body body'
  have hReordered : Reordered body body' := by
    constructor
    · decide
    · intro slot hOrdered
      cases slot with
      | ports | sslPorts => cases hOrdered
      | _ => decide
  have hHeader : ∃ declared, ofHeader "Probe TCP A q||".toList = .ok declared := ⟨_, rfl⟩
  obtain ⟨declared, hHeader⟩ := hHeader
  obtain ⟨⟨p, faults, faults', hBody, hBody', hFaults⟩, _⟩ :=
    compile_of_reordered hHeader hReordered
  have hRarity : (compile ("Probe TCP A q||".toList :: body)).toOption.map (·.1.rarity) =
      some (some 5) := by decide
  rw [hBody] at hRarity
  exact ⟨p, faults, faults', hBody, hBody', hFaults, Option.some.inj hRarity⟩

end Probe
end ServiceProbe
