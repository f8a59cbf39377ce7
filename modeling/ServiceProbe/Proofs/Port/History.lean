import Mathlib.Data.List.Induction
import Mathlib.SetTheory.Cardinal.Finite
import ServiceProbe.Proofs.Port.Grammar
import ServiceProbe.Proofs.Port.Written

/-! # Port sets after any calls

What a set contains is said by the calls since it was created: it is filled, or the port is inserted
or named by an accepted expression. Its list, its size and its emptiness say the same as its members
do, after every history. -/

namespace ServiceProbe.PortSet
set_option autoImplicit false

inductive Call where
  | new
  | parse (expression : Text)
  | load (expression : Text)
  | insert (port : Port)
  | fill

/-- What a call makes of a set. One that is refused leaves the set as it is. -/
def call (s : PortSet) : Call → PortSet
  | .new => empty
  | .parse e => (parse e).toOption.getD s
  | .load e => (s.load e).1
  | .insert p => s.insert p
  | .fill => s.fill

def afterCalls (calls : List Call) : PortSet := calls.foldl call empty

namespace Call

/-- The call begins a set of its own. -/
def Creates : Call → Prop
  | new => True
  | parse e => PortExpression.IsAccepted e
  | load _ | insert _ | fill => False

/-- The call puts the port into the set. -/
def Gives (p : Port) : Call → Prop
  | new => False
  | parse e | load e => PortExpression.IsAccepted e ∧ PortExpression.Names e p
  | insert q => q = p
  | fill => True

end Call

/-- A call since the creation of the set has the property. -/
def Since (P : Call → Prop) (calls : List Call) : Prop :=
  ∃ earlier c later, calls = earlier ++ c :: later ∧ P c ∧ ∀ after ∈ later, ¬ after.Creates

/-- A call since the creation of the set gives the port. -/
def GivenBy (calls : List Call) (p : Port) : Prop :=
  ∃ earlier c later, calls = earlier ++ c :: later ∧ c.Gives p ∧ ∀ after ∈ later, ¬ after.Creates

variable {s : PortSet} {e : Text} {p : Port} {calls : List Call}

/-! ## Single calls -/

theorem names_ne_zero (h : PortExpression.Names e p) : p ≠ 0 := by
  rintro rfl
  obtain ⟨_, _, first, last, hTerm, hFirst, _⟩ := h
  have hPositive := hTerm.bounds.1
  rw [UInt16.toNat_zero] at hFirst
  omega

theorem ne_zero_of_contains (h : s.contains p = true) : p ≠ 0 := by
  rintro rfl
  simp [contains] at h

theorem load_cases (s : PortSet) (e : Text) :
    (PortExpression.IsAccepted e ∧ (s.load e).2 = none ∧
        ∀ p, (s.load e).1.contains p = true ↔ s.contains p = true ∨ PortExpression.Names e p) ∨
      ¬ PortExpression.IsAccepted e ∧ ∃ fault, s.load e = (s, some fault) := by
  rw [PortExpression.IsAccepted, ← PortExpression.exists_read_iff]
  unfold load
  cases hRead : PortExpression.read e with
  | error fault => exact .inr ⟨by simp, fault, rfl⟩
  | ok ranges =>
    refine .inl ⟨⟨ranges, rfl⟩, rfl, fun p => ?_⟩
    rw [contains_foldl_insertRange, Bool.or_eq_true, PortExpression.any_mem_of_read hRead]
    rfl

theorem parse_cases (e : Text) :
    (PortExpression.IsAccepted e ∧ ∃ added, parse e = .ok added ∧
        ∀ p, added.contains p = true ↔ PortExpression.Names e p) ∨
      ¬ PortExpression.IsAccepted e ∧ ∃ fault, parse e = .error fault := by
  obtain ⟨hAccepted, hFault, hContains⟩ | ⟨hRefused, fault, hLoad⟩ := load_cases empty e
  · refine .inl ⟨hAccepted, (empty.load e).1, ?_, fun p => by simp [hContains]⟩
    have hPair : empty.load e = ((empty.load e).1, none) := Prod.ext rfl hFault
    rw [parse, hPair]
    rfl
  · refine .inr ⟨hRefused, fault, ?_⟩
    rw [parse, hLoad]
    rfl

theorem contains_insert (s : PortSet) (p q : Port) :
    (s.insert p).contains q = (s.contains q || decide (p ≠ 0 ∧ p = q)) := by
  unfold insert
  split
  · rename_i hZero
    simp [hZero]
  · rename_i hNonzero
    rw [contains_insertRange, ← PortRange.only, Bool.eq_iff_iff]
    simp [PortRange.mem_only, hNonzero]

theorem contains_call (s : PortSet) (c : Call) (p : Port) : (s.call c).contains p = true ↔
    p ≠ 0 ∧ c.Gives p ∨ ¬ c.Creates ∧ s.contains p = true := by
  cases c with
  | new => simp [call, Call.Gives, Call.Creates]
  | parse e =>
    simp only [call, Call.Gives, Call.Creates]
    obtain ⟨hAccepted, added, hParse, hContains⟩ | ⟨hRefused, fault, hParse⟩ := parse_cases e
    · have hNonzero : PortExpression.Names e p → p ≠ 0 := names_ne_zero
      simp only [hParse, Except.toOption, Option.getD_some, hContains]
      tauto
    · simp [hParse, hRefused, Except.toOption]
  | load e =>
    simp only [call, Call.Gives, Call.Creates]
    obtain ⟨hAccepted, _, hContains⟩ | ⟨hRefused, fault, hLoad⟩ := load_cases s e
    · have hNonzero : PortExpression.Names e p → p ≠ 0 := names_ne_zero
      rw [hContains]
      tauto
    · simp [hLoad, hRefused]
  | insert q =>
    simp only [call, Call.Gives, Call.Creates]
    rw [contains_insert, Bool.or_eq_true, decide_eq_true_eq]
    grind
  | fill =>
    have hNonzero : s.contains p = true → p ≠ 0 := ne_zero_of_contains
    rw [call, contains_fill]
    simpa [Call.Gives, Call.Creates] using hNonzero

/-! ## Histories -/

theorem since_nil (P : Call → Prop) : ¬ Since P [] := by
  rintro ⟨earlier, c, later, hCalls, _⟩
  simp at hCalls

theorem since_concat (P : Call → Prop) (calls : List Call) (c : Call) :
    Since P (calls ++ [c]) ↔ P c ∨ ¬ c.Creates ∧ Since P calls := by
  constructor
  · rintro ⟨earlier, found, later, hCalls, hFound, hLater⟩
    rcases List.eq_nil_or_concat' later with rfl | ⟨later, last, rfl⟩
    · obtain ⟨_, hLast⟩ := List.append_inj' hCalls rfl
      cases hLast
      exact .inl hFound
    · rw [← List.cons_append, ← List.append_assoc] at hCalls
      obtain ⟨rfl, hLast⟩ := List.append_inj' hCalls rfl
      cases hLast
      obtain ⟨hLater, hNot⟩ := List.forall_mem_append.mp hLater
      exact .inr ⟨hNot c List.mem_cons_self, earlier, found, later, rfl, hFound, hLater⟩
  · rintro (hFound | ⟨hNot, earlier, found, later, rfl, hFound, hLater⟩)
    · exact ⟨calls, c, [], rfl, hFound, by simp⟩
    · refine ⟨earlier, found, later ++ [c], by simp, hFound, ?_⟩
      exact List.forall_mem_append.mpr ⟨hLater, List.forall_mem_singleton.mpr hNot⟩

theorem afterCalls_concat (calls : List Call) (c : Call) :
    afterCalls (calls ++ [c]) = (afterCalls calls).call c :=
  List.foldl_concat ..

theorem contains_afterCalls (calls : List Call) (p : Port) :
    (afterCalls calls).contains p = true ↔ p ≠ 0 ∧ GivenBy calls p := by
  induction calls using List.reverseRecOn with
  | nil =>
    have hNone : ¬ GivenBy [] p := since_nil (Call.Gives p)
    simp [afterCalls, hNone]
  | append_singleton calls c ih =>
    have hGiven : GivenBy (calls ++ [c]) p ↔ c.Gives p ∨ ¬ c.Creates ∧ GivenBy calls p :=
      since_concat (Call.Gives p) calls c
    rw [afterCalls_concat, contains_call, ih, hGiven]
    tauto

/-! ## Views -/

theorem card_eq_length_toList (s : PortSet) :
    Nat.card { p : Port // s.contains p = true } = s.toList.length := by
  have hNodup : s.toList.Nodup := s.pairwise_toList.imp fun hLess => UInt16.ne_of_lt hLess
  rw [← List.toFinset_card_of_nodup hNodup]
  exact Nat.subtype_card _ fun p => List.mem_toFinset.trans mem_toList

/-- Digit zero is never set, so the digits that are set are ports. -/
theorem countP_digits (s : PortSet) :
    (List.range 65536).countP s.digits.testBit = (List.range' 1 65535).countP s.digits.testBit := by
  have hZero : s.digits.testBit 0 = false := s.testBit_of_not_port (by decide)
  rw [List.range_eq_range', List.range'_succ, List.countP_cons_of_neg (by simp [hZero])]

theorem size_eq_length_toList (s : PortSet) : s.size = s.toList.length := by
  have hCount : s.toList.length =
      (List.range' 1 65535).countP fun n => s.filled || s.digits.testBit n := by
    rw [toList, ← List.countP_eq_length_filter, List.countP_map]
    refine List.countP_congr fun n hn => ?_
    rw [List.mem_range'_1] at hn
    rw [Function.comp_apply, contains_ofNat (by omega) (by omega)]
  rw [hCount, size, countP_digits]
  cases s.filled <;> simp

theorem isEmpty_iff (s : PortSet) : s.isEmpty = true ↔ ∀ p, s.contains p = false := by
  constructor
  · intro h
    simp [eq_empty_of_isEmpty h]
  · intro hNone
    by_contra h
    obtain ⟨p, hp⟩ := exists_contains (Bool.eq_false_iff.mpr h)
    exact absurd ((hNone p).symm.trans hp) (by decide)

/-- After any calls the four views of a set agree with what the calls since its creation say. -/
theorem views_agree_after (calls : List Call) :
    let s := afterCalls calls
    (∀ p, s.contains p = true ↔ p ≠ 0 ∧ GivenBy calls p) ∧
      (∀ p q, (s.insert p).contains q = (s.contains q || decide (p ≠ 0 ∧ p = q))) ∧
      (s.toList.Pairwise (· < ·) ∧ ∀ p, p ∈ s.toList ↔ s.contains p = true) ∧
      s.size = Nat.card { p : Port // s.contains p = true } ∧
      (s.isEmpty = true ↔ ∀ p, s.contains p = false) := by
  intro s
  refine ⟨contains_afterCalls calls, contains_insert s, ⟨s.pairwise_toList, fun p => mem_toList⟩,
    ?_, s.isEmpty_iff⟩
  rw [size_eq_length_toList, card_eq_length_toList]

end ServiceProbe.PortSet
