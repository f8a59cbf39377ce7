import ServiceProbe.Port.Expression
import ServiceProbe.Proofs.Registry.Consistency
import ServiceProbe.Proofs.Text.Accepted
import ServiceProbe.Proofs.Text.Separated

/-! # The language of port expressions

An expression is accepted exactly when each of its terms is put together as the grammar says, with
blanks wherever they are allowed. The grammar names no reader: it says of every text between two
commas which numbers it stands for. -/

namespace ServiceProbe
set_option autoImplicit false

namespace PortExpression

def IsPort (n : Nat) (t : Text) : Prop :=
  1 ≤ n ∧ n ≤ 65535 ∧ ∃ numeral, Text.IsNumeral n numeral ∧ Text.IsSurrounded numeral t

/-- One port, or two ports in their order with a hyphen between them. -/
inductive IsBody : Nat → Nat → Text → Prop where
  | port {n : Nat} {t : Text} (h : IsPort n t) : IsBody n n t
  | range {first last : Nat} {low high : Text} (hLow : IsPort first low) (hHigh : IsPort last high)
      (hOrder : first ≤ last) : IsBody first last (low ++ '-' :: high)

def IsQualifier (t : Text) : Prop :=
  ∃ letter ∈ ['T', 'U', 'S', 't', 'u', 's'], Text.IsSurrounded [letter] t

/-- What stands between two commas. -/
inductive IsTerm : Nat → Nat → Text → Prop where
  | plain {first last : Nat} {t : Text} (h : IsBody first last t) : IsTerm first last t
  | qualified {first last : Nat} {qualifier t : Text} (hQualifier : IsQualifier qualifier)
      (h : IsBody first last t) : IsTerm first last (qualifier ++ ':' :: t)

end PortExpression

namespace Text

theorem IsNumeral.mem {n : Nat} {t : Text} (h : IsNumeral n t) {c : Char} (hc : c ∈ t) :
    c.isDigit = true ∨ c = '+' := by
  obtain ⟨sign, digits, hSign, _, hDigits, _, rfl⟩ := h
  rcases List.mem_append.mp hc with hIn | hIn
  · rcases hSign with rfl | rfl
    · cases hIn
    · exact .inr (List.mem_singleton.mp hIn)
  · exact .inl (hDigits c hIn)

theorem IsNumeral.isWord {n : Nat} {t : Text} (h : IsNumeral n t) : IsWord t := by
  constructor
  · obtain ⟨sign, digits, _, hNonempty, _, _, rfl⟩ := h
    simp [hNonempty]
  · intro c hc
    rcases h.mem hc with hDigit | rfl
    · exact isBlank_of_isDigit hDigit
    · rfl

theorem IsSurrounded.mem {t padded : Text} (h : IsSurrounded t padded) {c : Char}
    (hc : c ∈ padded) : c ∈ t ∨ isBlank c = true := by
  obtain ⟨left, right, hLeft, hRight, rfl⟩ := h
  rcases List.mem_append.mp hc with hIn | hIn
  · exact .inr (hLeft c hIn)
  · exact (List.mem_append.mp hIn).imp id (hRight c)

theorem IsSurrounded.mem_of_mem {t padded : Text} (h : IsSurrounded t padded) {c : Char}
    (hc : c ∈ t) : c ∈ padded := by
  obtain ⟨left, right, _, _, rfl⟩ := h
  simp [hc]

theorem append_cons_inj {d : Char} {head head' rest rest' : Text} (h : d ∉ head) (h' : d ∉ head')
    (hEq : head ++ d :: rest = head' ++ d :: rest') : head = head' ∧ rest = rest' := by
  have hCut := cutOn?_append_cons h rest
  rw [hEq, cutOn?_append_cons h' rest', Option.some.injEq, Prod.mk.injEq] at hCut
  exact ⟨hCut.1.symm, hCut.2.symm⟩

end Text

namespace PortExpression

variable {n first last : Nat} {t body low high qualifier : Text}

/-! ## Ports -/

theorem isPort_iff : IsPort n t ↔ 1 ≤ n ∧ n ≤ 65535 ∧ Text.IsNumeral n t.trim := by
  refine and_congr_right fun _ => and_congr_right fun _ => ?_
  constructor
  · rintro ⟨numeral, hNumeral, hSurrounded⟩
    rwa [hSurrounded.trim_eq, hNumeral.isWord.isTight.trim]
  · intro h
    exact ⟨t.trim, h, Text.isSurrounded_trim t⟩

theorem isPort_congr {u : Text} (h : Text.IsSurrounded u t) : IsPort n u ↔ IsPort n t := by
  rw [isPort_iff, isPort_iff, h.trim_eq]

theorem IsPort.not_mem (h : IsPort n t) {c : Char} (hBlank : Text.isBlank c = false)
    (hDigit : c.isDigit = false) (hPlus : c ≠ '+') : c ∉ t := by
  obtain ⟨_, _, numeral, hNumeral, hSurrounded⟩ := h
  intro hc
  rcases hSurrounded.mem hc with hIn | hIn
  · rcases hNumeral.mem hIn with hYes | rfl
    · exact absurd (hDigit.symm.trans hYes) (by decide)
    · exact hPlus rfl
  · exact absurd (hBlank.symm.trans hIn) (by decide)

theorem readPort_eq_ok_iff {term : Text} {p : { p : Port // p ≠ 0 }} :
    readPort t term = .ok p ↔ IsPort p.val.toNat t := by
  have hBound : p.val.toNat ≤ 65535 := Nat.le_of_lt_succ p.val.toNat_lt
  have hPositive : 1 ≤ p.val.toNat := by
    have hNe : p.val.toNat ≠ 0 := fun h => p.property (UInt16.toNat_inj.mp h)
    omega
  rw [isPort_iff, and_iff_right hPositive, and_iff_right hBound]
  have hRead : Text.readUnsigned? 65535 t.trim = some p.val.toNat ↔
      Text.IsNumeral p.val.toNat t.trim := by
    rw [Text.readUnsigned?_eq_some_iff, and_iff_left hBound]
  rw [← hRead, readPort]
  cases hValue : Text.readUnsigned? 65535 t.trim with
  | none => simp [throw, throwThe, MonadExceptOf.throw]
  | some n =>
    have hn : n ≤ 65535 := (Text.readUnsigned?_eq_some_iff.mp hValue).2
    have hNat : (UInt16.ofNat n).toNat = n := UInt16.toNat_ofNat_of_lt' (Nat.lt_succ_of_le hn)
    dsimp only
    rw [Option.some.injEq]
    split
    · rename_i hZero
      constructor
      · intro h
        cases h
      · intro h
        rw [hZero, UInt16.toNat_zero] at hNat
        omega
    · rename_i hNonzero
      constructor
      · intro h
        cases h
        exact hNat.symm
      · intro h
        subst h
        exact congrArg Except.ok (Subtype.ext UInt16.ofNat_toNat)

/-! ## Bodies -/

theorem isBody_of_not_mem (h : '-' ∉ t) : IsBody first last t ↔ first = last ∧ IsPort first t := by
  constructor
  · intro hBody
    cases hBody with
    | port hPort => exact ⟨rfl, hPort⟩
    | range => exact absurd (List.mem_append_right _ List.mem_cons_self) h
  · rintro ⟨rfl, hPort⟩
    exact .port hPort

theorem isBody_append_cons (h : '-' ∉ low) : IsBody first last (low ++ '-' :: high) ↔
    IsPort first low ∧ IsPort last high ∧ first ≤ last := by
  constructor
  · intro hBody
    generalize hText : low ++ '-' :: high = t at hBody
    cases hBody with
    | port hPort =>
      have hMem : '-' ∈ t := hText ▸ List.mem_append_right _ List.mem_cons_self
      exact absurd hMem (hPort.not_mem (by decide) (by decide) (by decide))
    | range hLow hHigh hOrder =>
      have hFree := hLow.not_mem (c := '-') (by decide) (by decide) (by decide)
      obtain ⟨rfl, rfl⟩ := Text.append_cons_inj h hFree hText
      exact ⟨hLow, hHigh, hOrder⟩
  · rintro ⟨hLow, hHigh, hOrder⟩
    exact .range hLow hHigh hOrder

theorem isBody_trim_iff : IsBody first last t.trim ↔ IsBody first last t := by
  by_cases h : '-' ∈ t
  · obtain ⟨low, high, rfl, hLow⟩ := List.eq_append_cons_of_mem h
    have hStart : '-' ∉ Text.trimStart low := fun hIn =>
      hLow ((Text.isSurrounded_trimStart low).mem_of_mem hIn)
    rw [Text.trim_append_cons low (by decide), isBody_append_cons hStart, isBody_append_cons hLow,
      isPort_congr (Text.isSurrounded_trimStart low), isPort_congr (Text.isSurrounded_trimEnd high)]
  · have hTrim : '-' ∉ t.trim := fun hIn => h ((Text.isSurrounded_trim t).mem_of_mem hIn)
    rw [isBody_of_not_mem hTrim, isBody_of_not_mem h, isPort_congr (Text.isSurrounded_trim t)]

theorem isBody_congr {u : Text} (h : Text.IsSurrounded u t) :
    IsBody first last u ↔ IsBody first last t := by
  rw [← isBody_trim_iff, ← h.trim_eq, isBody_trim_iff]

theorem IsBody.not_mem (h : IsBody first last t) {c : Char} (hBlank : Text.isBlank c = false)
    (hDigit : c.isDigit = false) (hPlus : c ≠ '+') (hHyphen : c ≠ '-') : c ∉ t := by
  cases h with
  | port hPort => exact hPort.not_mem hBlank hDigit hPlus
  | range hLow hHigh =>
    intro hc
    rcases List.mem_append.mp hc with hIn | hIn
    · exact hLow.not_mem hBlank hDigit hPlus hIn
    · rcases List.mem_cons.mp hIn with rfl | hIn
      · exact hHyphen rfl
      · exact hHigh.not_mem hBlank hDigit hPlus hIn

/-! ## Terms -/

theorem isTerm_of_not_mem (h : ':' ∉ t) : IsTerm first last t ↔ IsBody first last t := by
  constructor
  · intro hTerm
    cases hTerm with
    | plain hBody => exact hBody
    | qualified => exact absurd (List.mem_append_right _ List.mem_cons_self) h
  · exact .plain

theorem IsQualifier.not_mem (h : IsQualifier t) : ':' ∉ t := by
  obtain ⟨letter, hLetter, hSurrounded⟩ := h
  intro hc
  rcases hSurrounded.mem hc with hIn | hIn
  · cases List.mem_singleton.mp hIn
    exact absurd hLetter (by decide)
  · exact absurd hIn (by decide)

theorem isTerm_append_cons (h : ':' ∉ qualifier) : IsTerm first last (qualifier ++ ':' :: t) ↔
    IsQualifier qualifier ∧ IsBody first last t := by
  constructor
  · intro hTerm
    generalize hText : qualifier ++ ':' :: t = whole at hTerm
    cases hTerm with
    | plain hBody =>
      have hMem : ':' ∈ whole := hText ▸ List.mem_append_right _ List.mem_cons_self
      exact absurd hMem (hBody.not_mem (by decide) (by decide) (by decide) (by decide))
    | qualified hQualifier hBody =>
      obtain ⟨rfl, rfl⟩ := Text.append_cons_inj h hQualifier.not_mem hText
      exact ⟨hQualifier, hBody⟩
  · rintro ⟨hQualifier, hBody⟩
    exact .qualified hQualifier hBody

theorem isQualifier_iff : IsQualifier t ↔ qualifiers.contains t.trim = true := by
  have hSolid : ∀ letter ∈ ['T', 'U', 'S', 't', 'u', 's'], Text.isBlank letter = false := by
    simp [Text.isBlank]
  have hTight : ∀ letter ∈ ['T', 'U', 'S', 't', 'u', 's'], Text.trim [letter] = [letter] := by
    intro letter hLetter
    have hWord : Text.IsWord [letter] :=
      ⟨List.cons_ne_nil _ _, List.forall_mem_singleton.mpr (hSolid letter hLetter)⟩
    exact hWord.isTight.trim
  have hListed : qualifiers = ['T', 'U', 'S', 't', 'u', 's'].map fun letter => [letter] := rfl
  rw [List.contains_iff_mem, hListed, List.mem_map]
  constructor
  · rintro ⟨letter, hLetter, hSurrounded⟩
    exact ⟨letter, hLetter, (hSurrounded.trim_eq.trans (hTight letter hLetter)).symm⟩
  · rintro ⟨letter, hLetter, hTrim⟩
    exact ⟨letter, hLetter, hTrim ▸ Text.isSurrounded_trim t⟩

theorem isTerm_trim_iff : IsTerm first last t.trim ↔ IsTerm first last t := by
  by_cases h : ':' ∈ t
  · obtain ⟨qualifier, rest, rfl, hQualifier⟩ := List.eq_append_cons_of_mem h
    have hStart : ':' ∉ Text.trimStart qualifier := fun hIn =>
      hQualifier ((Text.isSurrounded_trimStart qualifier).mem_of_mem hIn)
    rw [Text.trim_append_cons qualifier (by decide), isTerm_append_cons hStart,
      isTerm_append_cons hQualifier, isQualifier_iff, isQualifier_iff,
      (Text.isSurrounded_trimStart qualifier).trim_eq, isBody_congr (Text.isSurrounded_trimEnd rest)]
  · have hTrim : ':' ∉ t.trim := fun hIn => h ((Text.isSurrounded_trim t).mem_of_mem hIn)
    rw [isTerm_of_not_mem hTrim, isTerm_of_not_mem h, isBody_trim_iff]

/-! ## Reading -/

theorem readTerm_of_unqualified (h : unqualified t.trim = .ok body) {r : PortRange} :
    readTerm t = .ok r ↔ IsBody r.first.toNat r.last.toNat body := by
  have hBind : ∀ f : Text → Except PortFault PortRange, (Except.ok body >>= f) = f body :=
    fun _ => rfl
  obtain ⟨first, last, hFirst, hOrder⟩ := r
  have hLast : last ≠ 0 := by
    rintro rfl
    exact hFirst (UInt16.le_antisymm hOrder UInt16.zero_le)
  rcases Text.cutOn?_cases '-' body with ⟨hNone, hCut⟩ | ⟨low, high, rfl, hLow, hCut⟩
  · rw [readTerm, h, hBind, hCut, isBody_of_not_mem hNone]
    dsimp only
    rw [UInt16.toNat_inj]
    constructor
    · intro h
      obtain ⟨port, hPort, hRange⟩ := exists_of_bind_eq_ok h
      cases hRange
      exact ⟨rfl, readPort_eq_ok_iff.mp hPort⟩
    · rintro ⟨rfl, hPort⟩
      have hRead : readPort body t.trim = .ok ⟨first, hFirst⟩ := readPort_eq_ok_iff.mpr hPort
      rw [hRead]
      rfl
  · rw [readTerm, h, hBind, hCut, isBody_append_cons hLow, ← UInt16.le_iff_toNat_le]
    dsimp only
    constructor
    · intro h
      obtain ⟨lowest, hFirstRead, h⟩ := exists_of_bind_eq_ok h
      obtain ⟨highest, hLastRead, h⟩ := exists_of_bind_eq_ok h
      split at h
      · cases h
        exact ⟨readPort_eq_ok_iff.mp hFirstRead, readPort_eq_ok_iff.mp hLastRead, hOrder⟩
      · cases h
    · rintro ⟨hFirstPort, hLastPort, _⟩
      have hFirstRead : readPort low t.trim = .ok ⟨first, hFirst⟩ := readPort_eq_ok_iff.mpr hFirstPort
      have hLastRead : readPort high t.trim = .ok ⟨last, hLast⟩ := readPort_eq_ok_iff.mpr hLastPort
      rw [hFirstRead, hLastRead]
      exact dif_pos hOrder

theorem readTerm_eq_ok_iff {r : PortRange} :
    readTerm t = .ok r ↔ IsTerm r.first.toNat r.last.toNat t := by
  rw [← isTerm_trim_iff]
  rcases Text.cutOn?_cases ':' t.trim with ⟨hNone, hCut⟩ | ⟨qualifier, rest, hTrim, hFree, hCut⟩
  · have hUnqualified : unqualified t.trim = .ok t.trim := by
      rw [unqualified, hCut]
      rfl
    rw [isTerm_of_not_mem hNone]
    exact readTerm_of_unqualified hUnqualified
  · rw [hTrim, isTerm_append_cons hFree, isQualifier_iff]
    by_cases hQualifier : qualifiers.contains (Text.trim qualifier) = true
    · have hUnqualified : unqualified t.trim = .ok (Text.trim rest) := by
        rw [unqualified, hCut]
        exact if_pos hQualifier
      rw [and_iff_right hQualifier, ← isBody_trim_iff]
      exact readTerm_of_unqualified hUnqualified
    · have hRefused : unqualified t.trim = .error (.badQualifier t.trim) := by
        rw [unqualified, hCut]
        exact if_neg hQualifier
      constructor
      · intro h
        rw [readTerm, hRefused] at h
        cases h
      · rintro ⟨hOther, _⟩
        exact absurd hOther hQualifier

theorem IsTerm.bounds (h : IsTerm first last t) : 1 ≤ first ∧ first ≤ last ∧ last ≤ 65535 := by
  have hBody : ∃ body, IsBody first last body := by
    cases h with
    | plain h => exact ⟨_, h⟩
    | qualified _ h => exact ⟨_, h⟩
  obtain ⟨body, hBody⟩ := hBody
  cases hBody with
  | port hPort => exact ⟨hPort.1, Nat.le_refl _, hPort.2.1⟩
  | range hLow hHigh hOrder => exact ⟨hLow.1, hOrder, hHigh.2.1⟩

theorem IsTerm.exists_readTerm (h : IsTerm first last t) :
    ∃ r, readTerm t = .ok r ∧ r.first.toNat = first ∧ r.last.toNat = last := by
  obtain ⟨hPositive, hOrder, hBound⟩ := h.bounds
  have hFirst : (UInt16.ofNat first).toNat = first := UInt16.toNat_ofNat_of_lt' (Nat.lt_succ_of_le (hOrder.trans hBound))
  have hLast : (UInt16.ofNat last).toNat = last := UInt16.toNat_ofNat_of_lt' (Nat.lt_succ_of_le hBound)
  have hNonzero : UInt16.ofNat first ≠ 0 := by
    intro hZero
    rw [hZero, UInt16.toNat_zero] at hFirst
    omega
  have hLe : UInt16.ofNat first ≤ UInt16.ofNat last := by
    rw [UInt16.le_iff_toNat_le, hFirst, hLast]
    exact hOrder
  refine ⟨⟨_, _, hNonzero, hLe⟩, readTerm_eq_ok_iff.mpr ?_, hFirst, hLast⟩
  rwa [hFirst, hLast]

theorem exists_readTerm_iff : (∃ r, readTerm t = .ok r) ↔ ∃ first last, IsTerm first last t := by
  constructor
  · rintro ⟨r, hr⟩
    exact ⟨_, _, readTerm_eq_ok_iff.mp hr⟩
  · rintro ⟨first, last, h⟩
    obtain ⟨r, hr, _⟩ := h.exists_readTerm
    exact ⟨r, hr⟩

/-! ## Expressions -/

theorem read_of_blank (h : t.trim = []) : read t = .error .emptyExpression := by
  simp only [read, h]
  rfl

theorem read_of_ne_nil (h : t.trim ≠ []) : read t = (Text.commaParts t.trim).mapM readTerm := by
  rw [← List.isEmpty_eq_false_iff] at h
  simp only [read, h]
  rfl

theorem exists_read_iff : (∃ ranges, read t = .ok ranges) ↔
    t.trim ≠ [] ∧ ∀ part ∈ Text.commaParts t.trim, ∃ first last, IsTerm first last part := by
  by_cases h : t.trim = []
  · rw [read_of_blank h]
    constructor
    · rintro ⟨_, hRead⟩
      cases hRead
    · exact fun hTerms => absurd h hTerms.1
  · rw [read_of_ne_nil h, exists_mapM_eq_ok_iff, and_iff_right h]
    exact forall₂_congr fun part _ => exists_readTerm_iff

theorem any_mem_of_read {ranges : List PortRange} (h : read t = .ok ranges) (port : Port) :
    (ranges.any fun r => decide (r.Mem port)) = true ↔
      ∃ part ∈ Text.commaParts t.trim, ∃ first last, IsTerm first last part ∧
        first ≤ port.toNat ∧ port.toNat ≤ last := by
  have hNonempty : t.trim ≠ [] := (exists_read_iff.mp ⟨ranges, h⟩).1
  rw [read_of_ne_nil hNonempty] at h
  simp only [List.any_eq_true, decide_eq_true_eq, PortRange.mem_iff_toNat, mem_of_mapM_eq_ok h]
  constructor
  · rintro ⟨r, ⟨part, hPart, hRead⟩, hMem⟩
    exact ⟨part, hPart, _, _, readTerm_eq_ok_iff.mp hRead, hMem⟩
  · rintro ⟨part, hPart, first, last, hTerm, hMem⟩
    obtain ⟨r, hRead, rfl, rfl⟩ := hTerm.exists_readTerm
    exact ⟨r, ⟨part, hPart, hRead⟩, hMem⟩

/-- One of the terms stands for the port. -/
def Names (e : Text) (port : Port) : Prop :=
  ∃ t ∈ Text.commaParts e.trim, ∃ first last, IsTerm first last t ∧
    first ≤ port.toNat ∧ port.toNat ≤ last

/-- All terms of the expression are right, and there is one. -/
def IsAccepted (e : Text) : Prop :=
  e.trim ≠ [] ∧ ∀ t ∈ Text.commaParts e.trim, ∃ first last, IsTerm first last t

end PortExpression

namespace PortSet

/-- An expression is added as a whole when all its terms are right, and else not at all. -/
theorem load_accepts_grammar (s : PortSet) (e : Text) :
    ((s.load e).2 = none ↔ e.trim ≠ [] ∧
        ∀ t ∈ Text.commaParts e.trim, ∃ first last, PortExpression.IsTerm first last t) ∧
      ((s.load e).2 = none → ∀ port : Port, (s.load e).1.contains port = true ↔
        s.contains port = true ∨ ∃ t ∈ Text.commaParts e.trim, ∃ first last,
          PortExpression.IsTerm first last t ∧ first ≤ port.toNat ∧ port.toNat ≤ last) ∧
      ∀ fault, (s.load e).2 = some fault →
        (s.load e).1 = s ∧ ∃ detail, fault.toError = .parse detail := by
  rw [← PortExpression.exists_read_iff]
  cases hRead : PortExpression.read e with
  | error fault =>
    have hLoad : s.load e = (s, some fault) := by rw [load, hRead]
    rw [hLoad]
    refine ⟨by simp, ?_, ?_⟩
    · rintro ⟨⟩
    · rintro _ ⟨⟩
      exact ⟨rfl, _, rfl⟩
  | ok ranges =>
    have hLoad : s.load e = (ranges.foldl insertRange s, none) := by rw [load, hRead]
    rw [hLoad]
    refine ⟨by simp, fun _ port => ?_, ?_⟩
    · rw [contains_foldl_insertRange, Bool.or_eq_true, PortExpression.any_mem_of_read hRead]
    · rintro _ ⟨⟩

end PortSet
end ServiceProbe
