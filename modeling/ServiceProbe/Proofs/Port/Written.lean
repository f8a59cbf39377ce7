import ServiceProbe.Port.Expression
import ServiceProbe.Proofs.Registry.Consistency
import ServiceProbe.Proofs.Text.Separated

/-! # Written port sets

A set of ports is written as any ranges that make it up, with commas between them. The expression is
read back to a set with the same ports, and to the same set unless that one is filled. -/

namespace ServiceProbe
set_option autoImplicit false

namespace PortRange

def only (p : Port) (h : p ≠ 0) : PortRange := ⟨p, p, h, UInt16.le_refl p⟩

theorem mem_only {p port : Port} {h : p ≠ 0} : (only p h).Mem port ↔ p = port := by
  constructor
  · rintro ⟨hLow, hHigh⟩
    exact UInt16.le_antisymm hLow hHigh
  · rintro rfl
    exact ⟨UInt16.le_refl p, UInt16.le_refl p⟩

/-- The ends of the range around a hyphen, or its only port. -/
def Written (r : PortRange) (t : Text) : Prop :=
  t = Text.ofNat r.first.toNat ++ '-' :: Text.ofNat r.last.toNat ∨
    r.first = r.last ∧ t = Text.ofNat r.first.toNat

variable {r : PortRange} {t : Text}

theorem Written.mem (h : r.Written t) {c : Char} (hc : c ∈ t) : c.isDigit = true ∨ c = '-' := by
  rcases h with rfl | ⟨_, rfl⟩
  · rcases List.mem_append.mp hc with hFirst | hRest
    · exact Or.inl (Text.isDigit_of_mem_ofNat hFirst)
    · rcases List.mem_cons.mp hRest with rfl | hLast
      · exact Or.inr rfl
      · exact Or.inl (Text.isDigit_of_mem_ofNat hLast)
  · exact Or.inl (Text.isDigit_of_mem_ofNat hc)

theorem Written.isWord (h : r.Written t) : t.IsWord := by
  refine ⟨?_, fun c hc => ?_⟩
  · rcases h with rfl | ⟨_, rfl⟩
    · simp
    · exact Text.ofNat_ne_nil _
  · rcases h.mem hc with hDigit | rfl
    · exact Text.isBlank_of_isDigit hDigit
    · rfl

end PortRange

namespace PortExpression

theorem readPort_ofNat {p : Port} (hp : p ≠ 0) (term : Text) :
    readPort (Text.ofNat p.toNat) term = .ok ⟨p, hp⟩ := by
  have hRead : Text.readUnsigned? 65535 (Text.ofNat p.toNat).trim = some p.toNat := by
    have hBound : p.toNat ≤ 65535 := Nat.le_of_lt_succ p.toNat_lt
    rw [(Text.isWord_ofNat _).isTight.trim, Text.readUnsigned?_ofNat hBound]
  rw [readPort, hRead]
  simp only [UInt16.ofNat_toNat, hp, dif_neg, not_false_eq_true]
  rfl

theorem readTerm_of_written {r : PortRange} {t : Text} (h : r.Written t) : readTerm t = .ok r := by
  have hTrim : t.trim = t := h.isWord.isTight.trim
  have hQualifier : unqualified t = .ok t := by
    have hNone : Text.cutOn? ':' t = none := by
      refine Text.cutAt?_eq_none fun c hc => ?_
      rcases h.mem hc with hDigit | rfl
      · refine beq_eq_false_iff_ne.mpr ?_
        rintro rfl
        exact absurd hDigit (by decide)
      · rfl
    rw [unqualified, hNone]
    rfl
  have hDigits (n : Nat) : ∀ c ∈ Text.ofNat n, (c == '-') = false := by
    intro c hc
    refine beq_eq_false_iff_ne.mpr ?_
    rintro rfl
    exact absurd (Text.isDigit_of_mem_ofNat hc) (by decide)
  obtain ⟨first, last, hFirst, hOrder⟩ := r
  have hLast : last ≠ 0 := by
    rintro rfl
    exact hFirst (UInt16.le_antisymm hOrder (UInt16.zero_le))
  unfold readTerm
  rw [hTrim]
  simp only [hQualifier, bind, Except.bind]
  rcases h with rfl | ⟨hEqual, rfl⟩
  · rw [Text.cutOn?, Text.cutAt?_of_first (hDigits _) rfl]
    simp [readPort_ofNat hFirst, readPort_ofNat hLast, hOrder, pure, Except.pure]
  · change first = last at hEqual
    subst hEqual
    rw [Text.cutOn?, Text.cutAt?_eq_none (hDigits _)]
    simp [readPort_ofNat hFirst, pure, Except.pure]

theorem mapM_readTerm {terms : List (PortRange × Text)} (h : ∀ term ∈ terms, term.1.Written term.2) :
    (terms.map Prod.snd).mapM readTerm = .ok (terms.map Prod.fst) := by
  rw [mapM_eq_ok_iff, List.forall₂_map_left_iff, List.forall₂_map_right_iff, List.forall₂_same]
  exact fun term hTerm => readTerm_of_written (h term hTerm)

end PortExpression

namespace PortSet

/-- Ranges that make up the set, with commas between them. -/
def Written (s : PortSet) (t : Text) : Prop :=
  ∃ terms : List (PortRange × Text), terms ≠ [] ∧ (∀ term ∈ terms, term.1.Written term.2) ∧
    t = Text.join ',' (terms.map Prod.snd) ∧
    ∀ port, s.contains port = terms.any fun term => decide (term.1.Mem port)

theorem mem_toList {s : PortSet} {port : Port} : port ∈ s.toList ↔ s.contains port = true := by
  unfold toList
  rw [List.mem_filter, and_iff_right_of_imp]
  intro h
  refine List.mem_map.mpr ⟨port.toNat, ?_, UInt16.ofNat_toNat⟩
  have hBound := port.toNat_lt
  have hPositive : port.toNat ≠ 0 := by
    intro hZero
    have hPort : port = 0 := UInt16.toNat_inj.mp hZero
    simp [hPort, contains] at h
  exact List.mem_range'_1.mpr (by omega)

theorem pairwise_toList (s : PortSet) : s.toList.Pairwise (· < ·) := by
  refine List.Pairwise.filter _ (List.pairwise_map.mpr ?_)
  refine (List.pairwise_lt_range' 1).imp_of_mem fun {n m} hn hm hLess => ?_
  rw [List.mem_range'_1] at hn hm
  have hFirst : (UInt16.ofNat n).toNat = n := UInt16.toNat_ofNat_of_lt' (Nat.lt_of_lt_of_le hn.2 (by decide))
  have hSecond : (UInt16.ofNat m).toNat = m := UInt16.toNat_ofNat_of_lt' (Nat.lt_of_lt_of_le hm.2 (by decide))
  rwa [UInt16.lt_iff_toNat_lt, hFirst, hSecond]

theorem contains_ofNat {s : PortSet} {n : Nat} (hPositive : 0 < n) (hBound : n < 65536) :
    s.contains (UInt16.ofNat n) = (s.filled || s.digits.testBit n) := by
  have hNat : (UInt16.ofNat n).toNat = n := UInt16.toNat_ofNat_of_lt' hBound
  have hNe : (UInt16.ofNat n != 0) = true := by
    refine bne_iff_ne.mpr fun hZero => ?_
    have hZeroNat := congrArg UInt16.toNat hZero
    rw [hNat, UInt16.toNat_zero] at hZeroNat
    omega
  rw [contains, hNe, hNat, Bool.true_and]

theorem eq_of_digits {s t : PortSet} (hDigits : s.digits = t.digits) (hFilled : s.filled = t.filled) :
    s = t := by
  obtain ⟨_, _, _⟩ := s
  obtain ⟨_, _, _⟩ := t
  cases hDigits
  cases hFilled
  rfl

theorem testBit_of_not_port (s : PortSet) {i : Nat} (h : ¬ (0 < i ∧ i < 65536)) :
    s.digits.testBit i = false :=
  Bool.eq_false_iff.mpr fun hIn => h (s.digits_are_ports i hIn)

theorem eq_of_contains {s t : PortSet} (hs : s.filled = false) (ht : t.filled = false)
    (h : ∀ port, s.contains port = t.contains port) : s = t := by
  refine eq_of_digits (Nat.eq_of_testBit_eq fun i => ?_) (hs.trans ht.symm)
  by_cases hPort : 0 < i ∧ i < 65536
  · have hSame := h (UInt16.ofNat i)
    rwa [contains_ofNat hPort.1 hPort.2, contains_ofNat hPort.1 hPort.2, hs, ht, Bool.false_or,
      Bool.false_or] at hSame
  · rw [s.testBit_of_not_port hPort, t.testBit_of_not_port hPort]

theorem eq_empty_of_isEmpty {s : PortSet} (h : s.isEmpty = true) : s = empty := by
  obtain ⟨digits, filled, _⟩ := s
  simp only [isEmpty, Bool.and_eq_true, Bool.not_eq_true', beq_iff_eq] at h
  obtain ⟨rfl, rfl⟩ := h
  rfl

theorem exists_contains {s : PortSet} (h : s.isEmpty = false) : ∃ port, s.contains port = true := by
  by_contra hNone
  have hNot (port : Port) : s.contains port = false :=
    Bool.eq_false_iff.mpr fun hIn => hNone ⟨port, hIn⟩
  have hFilled : s.filled = false := Bool.eq_false_iff.mpr fun hFull => by
    have hOne := hNot 1
    simp [contains, hFull] at hOne
  have hEmpty : s = empty := eq_of_contains hFilled rfl fun port => by rw [hNot, contains_empty]
  rw [hEmpty] at h
  exact absurd h (by decide)

theorem exists_written {s : PortSet} (h : s.isEmpty = false) : ∃ t, s.Written t := by
  have hNonzero : ∀ port ∈ s.toList, port ≠ 0 := by
    rintro port hIn rfl
    have hContains := mem_toList.mp hIn
    simp [contains] at hContains
  let terms := (s.toList.pmap PortRange.only hNonzero).map fun r => (r, Text.ofNat r.first.toNat)
  refine ⟨_, terms, ?_, ?_, rfl, fun port => ?_⟩
  · obtain ⟨port, hPort⟩ := exists_contains h
    simpa [terms] using List.ne_nil_of_mem (mem_toList.mpr hPort)
  · intro term hTerm
    obtain ⟨r, hr, rfl⟩ := List.mem_map.mp hTerm
    obtain ⟨port, _, rfl⟩ := List.mem_pmap.mp hr
    exact Or.inr ⟨rfl, rfl⟩
  · rw [Bool.eq_iff_iff, ← mem_toList]
    simp only [terms, List.any_map, List.any_eq_true, List.mem_pmap, Function.comp_apply,
      decide_eq_true_eq]
    constructor
    · intro hPort
      exact ⟨_, ⟨port, hPort, rfl⟩, PortRange.mem_only.mpr rfl⟩
    · rintro ⟨r, ⟨found, hFound, rfl⟩, hMem⟩
      exact PortRange.mem_only.mp hMem ▸ hFound

namespace Written

variable {s : PortSet} {t : Text}

theorem isWord (h : s.Written t) : t.IsWord := by
  obtain ⟨terms, hNonempty, hTerms, rfl, _⟩ := h
  have hWords : ∀ term ∈ terms.map Prod.snd, term.IsWord := by
    intro term hIn
    obtain ⟨pair, hPair, rfl⟩ := List.mem_map.mp hIn
    exact (hTerms pair hPair).isWord
  exact Text.isWord_join (by simpa using hNonempty) hWords

theorem read (h : s.Written t) {padded : Text} (hPadded : Text.IsPadded t padded) :
    ∃ ranges, PortExpression.read padded = .ok ranges ∧
      ∀ port, (ranges.foldl insertRange empty).contains port = s.contains port := by
  have hWord := h.isWord
  have hTrim := hPadded.trim hWord.isTight
  obtain ⟨terms, hNonempty, hTerms, rfl, hContains⟩ := h
  refine ⟨terms.map Prod.fst, ?_, fun port => ?_⟩
  · have hComma : ∀ term ∈ terms.map Prod.snd, ',' ∉ term := by
      intro term hIn hMem
      obtain ⟨pair, hPair, rfl⟩ := List.mem_map.mp hIn
      exact ((hTerms pair hPair).mem hMem).elim (by decide) (by decide)
    simp only [PortExpression.read, hTrim, List.isEmpty_iff, hWord.ne_nil, if_false]
    rw [Text.commaParts_join (by simpa using hNonempty) hComma]
    exact PortExpression.mapM_readTerm hTerms
  · rw [contains_foldl_insertRange, contains_empty, Bool.false_or, hContains, List.any_map]
    rfl

theorem parse (h : s.Written t) {padded : Text} (hPadded : Text.IsPadded t padded) :
    ∃ added, PortSet.parse padded = .ok added ∧ ∀ port, added.contains port = s.contains port := by
  obtain ⟨ranges, hRead, hContains⟩ := h.read hPadded
  refine ⟨ranges.foldl insertRange empty, ?_, hContains⟩
  rw [PortSet.parse, load, hRead]
  rfl

end Written
end PortSet
end ServiceProbe
