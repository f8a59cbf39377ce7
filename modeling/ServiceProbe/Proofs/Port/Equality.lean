import ServiceProbe.Proofs.Port.History

/-! # Equal port sets

A set is what its calls have named port by port, together with the mark that makes it hold every
port. Two sets are equal when both agree. As long as neither is filled this comes to having the same
members; a filled set is not the set into which every port was put, and still tells which ports it
was given besides. -/

namespace ServiceProbe.PortSet
set_option autoImplicit false

namespace Call

/-- The call puts the port in by its number. -/
def Names (p : Port) : Call → Prop
  | new | fill => False
  | parse e | load e => PortExpression.IsAccepted e ∧ PortExpression.Names e p
  | insert q => q = p

end Call

/-- The set was filled since its creation. -/
def IsFilledBy (calls : List Call) : Prop := Since (· = .fill) calls

/-- The ports that were put in by their numbers. -/
def named (s : PortSet) : PortSet := { s with filled := false }

variable {s t : PortSet}

/-! ## The two parts of a set -/

theorem contains_eq_named (s : PortSet) (p : Port) :
    s.contains p = (p != 0 && s.filled || s.named.contains p) := by
  simp only [contains, named, Bool.false_or, Bool.and_or_distrib_left]

theorem eq_iff_parts :
    s = t ↔ s.filled = t.filled ∧ ∀ p, s.named.contains p = t.named.contains p := by
  constructor
  · rintro rfl
    exact ⟨rfl, fun _ => rfl⟩
  · rintro ⟨hFilled, hContains⟩
    have hNamed : s.named = t.named := eq_of_contains rfl rfl hContains
    have hDigits := congrArg digits hNamed
    exact eq_of_digits hDigits hFilled

theorem named_eq_self (h : s.filled = false) : s.named = s := by
  obtain ⟨_, _, _⟩ := s
  cases h
  rfl

/-- Without the mark the members are the ports that were put in. -/
theorem eq_iff_contains : s = t ↔ (∀ p, s.contains p = t.contains p) ∧ s.filled = t.filled ∧
    (s.filled = true → ∀ p, s.named.contains p = t.named.contains p) := by
  rw [eq_iff_parts]
  constructor
  · rintro ⟨hFilled, hNamed⟩
    refine ⟨fun p => ?_, hFilled, fun _ => hNamed⟩
    rw [contains_eq_named s, contains_eq_named t, hFilled, hNamed]
  · rintro ⟨hContains, hFilled, hNamed⟩
    refine ⟨hFilled, fun p => ?_⟩
    cases hs : s.filled with
    | true => exact hNamed hs p
    | false =>
      rw [named_eq_self hs, named_eq_self (hFilled.symm.trans hs)]
      exact hContains p

theorem named_foldl_insertRange (ranges : List PortRange) (s : PortSet) :
    (ranges.foldl insertRange s).named = ranges.foldl insertRange s.named := by
  induction ranges generalizing s with
  | nil => rfl
  | cons r ranges ih => exact ih (s.insertRange r)

/-! ## What a call does to them -/

theorem filled_of_parse {e : Text} (h : parse e = .ok t) : t.filled = false := by
  unfold parse load at h
  cases hRead : PortExpression.read e with
  | error fault =>
    rw [hRead] at h
    cases h
  | ok ranges =>
    rw [hRead] at h
    cases h
    exact filled_foldl_insertRange ranges empty

theorem filled_call (s : PortSet) (c : Call) :
    (s.call c).filled = true ↔ c = .fill ∨ ¬ c.Creates ∧ s.filled = true := by
  cases c with
  | new => simp [call, Call.Creates, empty]
  | parse e =>
    simp only [call, Call.Creates, reduceCtorEq, false_or]
    obtain ⟨hAccepted, added, hParse, _⟩ | ⟨hRefused, fault, hParse⟩ := parse_cases e
    · simp [hParse, hAccepted, Except.toOption, filled_of_parse hParse]
    · simp [hParse, hRefused, Except.toOption]
  | load e =>
    simp only [call, Call.Creates, reduceCtorEq, false_or, not_false_eq_true, true_and, load]
    cases PortExpression.read e with
    | error fault => rfl
    | ok ranges => rw [filled_foldl_insertRange]
  | insert p =>
    simp only [call, Call.Creates, reduceCtorEq, false_or, not_false_eq_true, true_and, insert]
    split <;> rfl
  | fill => simp [call, fill]

theorem named_call (s : PortSet) {c : Call} (h : c ≠ .fill) : (s.call c).named = s.named.call c := by
  cases c with
  | new => rfl
  | parse e =>
    simp only [call]
    cases hParse : parse e with
    | error fault => rfl
    | ok added => exact named_eq_self (filled_of_parse hParse)
  | load e =>
    simp only [call, load]
    cases PortExpression.read e with
    | error fault => rfl
    | ok ranges => exact named_foldl_insertRange ranges s
  | insert p =>
    simp only [call, insert]
    split <;> rfl
  | fill => exact absurd rfl h

theorem contains_named_call (s : PortSet) (c : Call) (p : Port) :
    (s.call c).named.contains p = true ↔
      p ≠ 0 ∧ c.Names p ∨ ¬ c.Creates ∧ s.named.contains p = true := by
  by_cases hFill : c = .fill
  · subst hFill
    have hSame : (s.call .fill).named = s.named := rfl
    simp [hSame, Call.Names, Call.Creates]
  · have hNames : c.Gives p ↔ c.Names p := by
      cases c with
      | fill => exact absurd rfl hFill
      | _ => rfl
    rw [named_call s hFill, contains_call, hNames]

/-! ## Histories -/

theorem filled_afterCalls (calls : List Call) :
    (afterCalls calls).filled = true ↔ IsFilledBy calls := by
  induction calls using List.reverseRecOn with
  | nil => simp [afterCalls, empty, IsFilledBy, since_nil]
  | append_singleton calls c ih =>
    rw [afterCalls_concat, filled_call, ih, IsFilledBy, IsFilledBy, since_concat]

theorem contains_named_afterCalls (calls : List Call) (p : Port) :
    (afterCalls calls).named.contains p = true ↔ p ≠ 0 ∧ Since (Call.Names p) calls := by
  induction calls using List.reverseRecOn with
  | nil =>
    have hEmpty : (afterCalls []).named = empty := rfl
    simp [hEmpty, since_nil]
  | append_singleton calls c ih =>
    rw [afterCalls_concat, contains_named_call, ih, since_concat]
    tauto

theorem filled_afterCalls_eq_iff (calls calls' : List Call) :
    (afterCalls calls).filled = (afterCalls calls').filled ↔
      (IsFilledBy calls ↔ IsFilledBy calls') := by
  rw [Bool.eq_iff_iff, filled_afterCalls, filled_afterCalls]

theorem named_afterCalls_eq_iff (calls calls' : List Call) (p : Port) :
    (afterCalls calls).named.contains p = (afterCalls calls').named.contains p ↔
      (p ≠ 0 → (Since (Call.Names p) calls ↔ Since (Call.Names p) calls')) := by
  rw [Bool.eq_iff_iff, contains_named_afterCalls, contains_named_afterCalls, and_congr_right_iff]

/-- Two sets are equal when they have the same members and were both filled or both not, and, where
they were, the same ports were put in by their numbers. -/
theorem equal_iff_same_calls (calls calls' : List Call) :
    let s := afterCalls calls
    let t := afterCalls calls'
    (s = t ↔ (∀ p, s.contains p = t.contains p) ∧ (IsFilledBy calls ↔ IsFilledBy calls') ∧
        (IsFilledBy calls → ∀ p, p ≠ 0 → (Since (Call.Names p) calls ↔ Since (Call.Names p) calls'))) ∧
      (¬ IsFilledBy calls → ¬ IsFilledBy calls' → (s = t ↔ ∀ p, s.contains p = t.contains p)) := by
  intro s t
  have hEqual : s = t ↔ (∀ p, s.contains p = t.contains p) ∧
      (IsFilledBy calls ↔ IsFilledBy calls') ∧ (IsFilledBy calls → ∀ p, p ≠ 0 →
        (Since (Call.Names p) calls ↔ Since (Call.Names p) calls')) := by
    rw [eq_iff_contains, filled_afterCalls_eq_iff, filled_afterCalls]
    simp only [s, t, named_afterCalls_eq_iff]
  refine ⟨hEqual, fun hNot hNot' => ?_⟩
  rw [hEqual, and_iff_left]
  exact ⟨iff_of_false hNot hNot', fun hFill => absurd hFill hNot⟩

def allPorts : PortRange := ⟨1, 65535, by decide, by decide⟩

theorem mem_allPorts (p : Port) : allPorts.Mem p ↔ p ≠ 0 := by
  have hBound := p.toNat_lt
  have hFirst : allPorts.first.toNat = 1 := rfl
  have hLast : allPorts.last.toNat = 65535 := rfl
  rw [PortRange.mem_iff_toNat, hFirst, hLast, ne_eq, ← UInt16.toNat_inj, UInt16.toNat_zero]
  omega

theorem afterCalls_allPorts : afterCalls [.parse "1-65535".toList] = empty.insertRange allPorts := by
  have hParse : parse "1-65535".toList = .ok (empty.insertRange allPorts) := rfl
  rw [afterCalls, List.foldl_cons, List.foldl_nil, call, hParse]
  rfl

/-- A filled set has the members of the set into which every port was put, and is another one. -/
theorem not_equal_iff_same_members : ¬ ∀ calls calls', afterCalls calls = afterCalls calls' ↔
    ∀ p, (afterCalls calls).contains p = (afterCalls calls').contains p := by
  intro hEqual
  have hFill : afterCalls [.fill] = empty.fill := rfl
  have hMembers : ∀ p, (afterCalls [.fill]).contains p =
      (afterCalls [.parse "1-65535".toList]).contains p := by
    intro p
    rw [hFill, afterCalls_allPorts, contains_fill, contains_insertRange, contains_empty,
      Bool.false_or, Bool.eq_iff_iff, decide_eq_true_eq, mem_allPorts, bne_iff_ne]
  have hSame := congrArg filled ((hEqual _ _).mpr hMembers)
  rw [hFill, afterCalls_allPorts] at hSame
  cases hSame

end ServiceProbe.PortSet
