import ServiceProbe.Proofs.Port.History

/-! # Port sets as machine words

The digits of a set fill 1024 words of 64 bits each. A port is found in them by division and
remainder, and its bit is tested, set and counted there. A history of calls leaves the same set
whether its digits are kept as one number or as words, and every view of it is the same. -/

namespace ServiceProbe
set_option autoImplicit false

/-- The words of a set, and the mark that makes it hold every port. -/
@[ext]
structure PortWords where
  words : Vector (BitVec 64) 1024
  filled : Bool

namespace PortWords

def empty : PortWords := ⟨Vector.replicate 1024 0#64, false⟩

/-- The place of the word of a port. -/
def place (p : Port) : Fin 1024 := ⟨p.toNat / 64, Nat.div_lt_of_lt_mul p.toNat_lt⟩

def bit (p : Port) : BitVec 64 := 1#64 <<< (p.toNat % 64)

def insert (w : PortWords) (p : Port) : PortWords :=
  if p = 0 then w else { w with words := w.words.set (place p) (w.words[place p] ||| bit p) }

def fill (w : PortWords) : PortWords := { w with filled := true }

/-- Inserts the ports of a range one after the other. -/
def insertRange (w : PortWords) (r : PortRange) : PortWords :=
  (List.range' r.first.toNat (r.last.toNat + 1 - r.first.toNat)).foldl
    (fun w n => w.insert (UInt16.ofNat n)) w

def load (w : PortWords) (e : Text) : PortWords :=
  match PortExpression.read e with
  | .ok ranges => ranges.foldl insertRange w
  | .error _ => w

def call (w : PortWords) : PortSet.Call → PortWords
  | .new => empty
  | .parse e => if (PortExpression.read e).isOk then empty.load e else w
  | .load e => w.load e
  | .insert p => w.insert p
  | .fill => w.fill

def contains (w : PortWords) (p : Port) : Bool :=
  p != 0 && (w.filled || w.words[place p] &&& bit p != 0#64)

def size (w : PortWords) : Nat :=
  if w.filled then 65535 else (w.words.toList.map fun word => word.cpop.toNat).sum

def isEmpty (w : PortWords) : Bool := !w.filled && w.words.all (· == 0#64)

end PortWords

namespace PortSet

/-- The 64 digits from place `64 * i` on. -/
def word (s : PortSet) (i : Nat) : BitVec 64 := .ofNat 64 (s.digits >>> (64 * i))

def toWords (s : PortSet) : PortWords := ⟨Vector.ofFn fun i => s.word i, s.filled⟩

variable {s t : PortSet} {p : Port} {i j : Nat}

/-! ## Bits -/

theorem getLsbD_word (s : PortSet) (i : Nat) (hj : j < 64) :
    (s.word i).getLsbD j = s.digits.testBit (64 * i + j) := by
  rw [word, BitVec.getLsbD_ofNat, Nat.testBit_shiftRight, decide_eq_true hj, Bool.true_and]

theorem getLsbD_bit (p : Port) (j : Nat) :
    (PortWords.bit p).getLsbD j = decide (j = p.toNat % 64) := by
  have hLess : p.toNat % 64 < 64 := Nat.mod_lt _ (by decide)
  rw [PortWords.bit, ← BitVec.twoPow_eq, BitVec.getLsbD_twoPow]
  simp [hLess, eq_comm]

theorem word_and_bit (s : PortSet) (p : Port) :
    (s.word (p.toNat / 64) &&& PortWords.bit p != 0#64) = s.digits.testBit p.toNat := by
  have hLess : p.toNat % 64 < 64 := Nat.mod_lt _ (by decide)
  have hPlace : 64 * (p.toNat / 64) + p.toNat % 64 = p.toNat := Nat.div_add_mod ..
  have hHere := s.getLsbD_word (p.toNat / 64) hLess
  rw [hPlace] at hHere
  rw [Bool.eq_iff_iff, bne_iff_ne, ← hHere]
  constructor
  · intro hSome
    by_contra hNot
    refine hSome (BitVec.eq_of_getLsbD_eq fun j hj => ?_)
    rw [BitVec.getLsbD_and, getLsbD_bit, BitVec.getLsbD_zero]
    by_cases hSame : j = p.toNat % 64
    · rw [hSame, Bool.eq_false_iff.mpr hNot, Bool.false_and]
    · rw [decide_eq_false hSame, Bool.and_false]
  · intro hBit hNone
    have hZero := congrArg (BitVec.getLsbD · (p.toNat % 64)) hNone
    simp only [BitVec.getLsbD_and, getLsbD_bit, hBit, BitVec.getLsbD_zero, decide_true,
      Bool.and_self, Bool.true_eq_false] at hZero

theorem testBit_insert (s : PortSet) (hp : p ≠ 0) (i : Nat) :
    (s.insert p).digits.testBit i = (s.digits.testBit i || decide (i = p.toNat)) := by
  rw [insert, dif_neg hp, insertRange, Nat.testBit_or, PortRange.testBit_mask]
  congr 1
  exact decide_eq_decide.mpr ⟨fun h => Nat.le_antisymm h.2 h.1, fun h => h ▸ ⟨Nat.le_refl _, Nat.le_refl _⟩⟩

theorem word_insert (s : PortSet) (hp : p ≠ 0) (i : Nat) : (s.insert p).word i =
    if p.toNat / 64 = i then s.word i ||| PortWords.bit p else s.word i := by
  refine BitVec.eq_of_getLsbD_eq fun j hj => ?_
  rw [getLsbD_word _ _ hj, testBit_insert s hp]
  split
  · rename_i hHere
    rw [BitVec.getLsbD_or, getLsbD_word _ _ hj, getLsbD_bit]
    congr 1
    exact decide_eq_decide.mpr (by omega)
  · rename_i hElsewhere
    rw [getLsbD_word _ _ hj, decide_eq_false (by omega), Bool.or_false]

/-! ## Calls -/

theorem toWords_insert (s : PortSet) (p : Port) : (s.insert p).toWords = s.toWords.insert p := by
  rw [PortWords.insert]
  split
  · rename_i hZero
    rw [insert, dif_pos hZero]
  · rename_i hNonzero
    have hFilled : (s.insert p).filled = s.filled := by
      rw [insert, dif_neg hNonzero]
      rfl
    refine PortWords.ext (Vector.ext fun i hi => ?_) hFilled
    simp only [toWords, PortWords.place, Fin.getElem_fin, Vector.getElem_ofFn, Vector.getElem_set,
      word_insert s hNonzero]
    split
    · rename_i hHere
      rw [hHere]
    · rfl

theorem toWords_empty : empty.toWords = .empty := by
  refine PortWords.ext (Vector.ext fun i hi => ?_) rfl
  simp only [toWords, PortWords.empty, Vector.getElem_ofFn, Vector.getElem_replicate, word, empty,
    Nat.zero_shiftRight]

theorem toWords_fill (s : PortSet) : s.fill.toWords = s.toWords.fill := rfl

theorem toWords_foldl_insert (ns : List Nat) (s : PortSet) :
    (ns.foldl (fun s n => s.insert (UInt16.ofNat n)) s).toWords =
      ns.foldl (fun w n => w.insert (UInt16.ofNat n)) s.toWords := by
  induction ns generalizing s with
  | nil => rfl
  | cons n ns ih => rw [List.foldl_cons, List.foldl_cons, ih, toWords_insert]

theorem testBit_foldl_insert {ns : List Nat} (h : ∀ n ∈ ns, 0 < n ∧ n < 65536) (s : PortSet) (i : Nat) :
    (ns.foldl (fun s n => s.insert (UInt16.ofNat n)) s).digits.testBit i = true ↔
      s.digits.testBit i = true ∨ i ∈ ns := by
  induction ns generalizing s with
  | nil => simp
  | cons n ns ih =>
    obtain ⟨⟨hPositive, hLess⟩, hRest⟩ := List.forall_mem_cons.mp h
    have hNat : (UInt16.ofNat n).toNat = n := UInt16.toNat_ofNat_of_lt' hLess
    have hNonzero : UInt16.ofNat n ≠ 0 := by
      intro hZero
      rw [hZero, UInt16.toNat_zero] at hNat
      omega
    rw [List.foldl_cons, ih hRest, testBit_insert s hNonzero, hNat, Bool.or_eq_true,
      decide_eq_true_eq, or_assoc, List.mem_cons]

theorem filled_foldl_insert (ns : List Nat) (s : PortSet) :
    (ns.foldl (fun s n => s.insert (UInt16.ofNat n)) s).filled = s.filled := by
  induction ns generalizing s with
  | nil => rfl
  | cons n ns ih =>
    rw [List.foldl_cons, ih, insert]
    split <;> rfl

/-- A range is put in at once as it would be port by port. -/
theorem insertRange_eq_foldl (s : PortSet) (r : PortRange) : s.insertRange r =
    (List.range' r.first.toNat (r.last.toNat + 1 - r.first.toNat)).foldl
      (fun s n => s.insert (UInt16.ofNat n)) s := by
  have hFirst := r.first_pos
  have hLast := r.last.toNat_lt
  have hPorts : ∀ n ∈ List.range' r.first.toNat (r.last.toNat + 1 - r.first.toNat),
      0 < n ∧ n < 65536 := by
    intro n hn
    rw [List.mem_range'_1] at hn
    omega
  refine eq_of_digits (Nat.eq_of_testBit_eq fun i => ?_) (filled_foldl_insert _ s).symm
  rw [Bool.eq_iff_iff, testBit_foldl_insert hPorts, insertRange, Nat.testBit_or, Bool.or_eq_true,
    PortRange.testBit_mask, decide_eq_true_eq, List.mem_range'_1]
  exact or_congr_right (by omega)

theorem toWords_insertRange (s : PortSet) (r : PortRange) :
    (s.insertRange r).toWords = s.toWords.insertRange r := by
  rw [insertRange_eq_foldl, toWords_foldl_insert, PortWords.insertRange]

theorem toWords_load (s : PortSet) (e : Text) : (s.load e).1.toWords = s.toWords.load e := by
  rw [load, PortWords.load]
  cases PortExpression.read e with
  | error fault => rfl
  | ok ranges =>
    dsimp only
    induction ranges generalizing s with
    | nil => rfl
    | cons r ranges ih => rw [List.foldl_cons, List.foldl_cons, ih, toWords_insertRange]

theorem toWords_call (s : PortSet) (c : Call) : (s.call c).toWords = s.toWords.call c := by
  cases c with
  | new => exact toWords_empty
  | parse e =>
    have hLoad := toWords_load empty e
    rw [toWords_empty] at hLoad
    rw [call, PortWords.call, ← hLoad, parse, load]
    cases PortExpression.read e <;> rfl
  | load e => exact toWords_load s e
  | insert p => exact toWords_insert s p
  | fill => exact toWords_fill s

/-! ## Views -/

theorem contains_toWords (s : PortSet) (p : Port) : s.toWords.contains p = s.contains p := by
  simp only [PortWords.contains, contains, toWords, PortWords.place, Fin.getElem_fin,
    Vector.getElem_ofFn, word_and_bit]

/-- The bits of a word are counted place by place. -/
theorem toNat_cpop (x : BitVec 64) : x.cpop.toNat = (List.range 64).countP x.getLsbD := by
  have hFirst (n : Nat) : x.cpopNatRec n 0 = (List.range n).countP x.getLsbD := by
    induction n with
    | zero => rfl
    | succ n ih =>
      rw [BitVec.cpopNatRec_succ, BitVec.cpopNatRec_add, ih, List.range_succ, List.countP_append,
        List.countP_singleton]
      cases x.getLsbD n <;> rfl
  rw [BitVec.toNat_cpop, hFirst]

theorem countP_range_mul (q : Nat → Bool) (m n : Nat) : (List.range (n * m)).countP q =
    ((List.range m).map fun i => (List.range n).countP fun j => q (n * i + j)).sum := by
  induction m with
  | zero => rfl
  | succ m ih =>
    rw [Nat.mul_succ, List.range_add, List.countP_append, ih, List.countP_map, List.range_succ,
      List.map_append, List.sum_append, List.map_singleton, List.sum_singleton]
    rfl

theorem size_toWords (s : PortSet) : s.toWords.size = s.size := by
  have hWord (i : Nat) : (s.word i).cpop.toNat =
      (List.range 64).countP fun j => s.digits.testBit (64 * i + j) := by
    rw [toNat_cpop]
    exact List.countP_congr fun j hj => by rw [getLsbD_word s i (List.mem_range.mp hj)]
  have hList : s.toWords.words.toList = (List.range 1024).map s.word :=
    List.ext_getElem (by simp) fun i _ _ => by simp [toWords]
  have hDigits : 65536 = 64 * 1024 := rfl
  rw [PortWords.size, size, hList, List.map_map, hDigits, countP_range_mul]
  exact if_congr Iff.rfl rfl (congrArg List.sum (List.map_congr_left fun i _ => hWord i))

theorem testBit_eq_getLsbD (s : PortSet) (i : Nat) :
    s.digits.testBit i = (s.word (i / 64)).getLsbD (i % 64) := by
  rw [getLsbD_word s _ (Nat.mod_lt _ (by decide)), Nat.div_add_mod]

theorem digits_eq_zero_iff (s : PortSet) : s.digits = 0 ↔ ∀ i < 1024, s.word i = 0#64 := by
  constructor
  · intro hZero i _
    rw [word, hZero, Nat.zero_shiftRight]
  · intro hNone
    refine Nat.eq_of_testBit_eq fun i => ?_
    rw [Nat.zero_testBit]
    by_contra hSet
    rw [Bool.not_eq_false] at hSet
    have hPort := s.digits_are_ports i hSet
    rw [testBit_eq_getLsbD, hNone _ (by omega), BitVec.getLsbD_zero] at hSet
    cases hSet

theorem isEmpty_toWords (s : PortSet) : s.toWords.isEmpty = s.isEmpty := by
  have hWords : s.toWords.words.all (· == 0#64) = (s.digits == 0) := by
    rw [Bool.eq_iff_iff, Vector.all_eq_true, beq_iff_eq, digits_eq_zero_iff]
    simp only [toWords, Vector.getElem_ofFn, beq_iff_eq]
  rw [PortWords.isEmpty, hWords]
  rfl

theorem words_toWords (s : PortSet) (i : Fin 1024) : s.toWords.words[i] = s.word i := by
  simp only [toWords, Fin.getElem_fin, Vector.getElem_ofFn]

theorem toWords_injective : Function.Injective toWords := by
  intro s t h
  have hWord (i : Fin 1024) : s.word i = t.word i := by rw [← words_toWords, ← words_toWords, h]
  refine eq_of_digits (Nat.eq_of_testBit_eq fun i => ?_) (congrArg PortWords.filled h)
  by_cases hPort : 0 < i ∧ i < 65536
  · rw [testBit_eq_getLsbD, testBit_eq_getLsbD, hWord ⟨i / 64, by omega⟩]
  · rw [s.testBit_of_not_port hPort, t.testBit_of_not_port hPort]

theorem toWords_afterCalls (calls : List Call) :
    (afterCalls calls).toWords = calls.foldl PortWords.call .empty := by
  induction calls using List.reverseRecOn with
  | nil => exact toWords_empty
  | append_singleton calls c ih => rw [afterCalls_concat, List.foldl_concat, ← ih, toWords_call]

/-- A history of calls leaves the words of the set that it leaves as one number. Both have the same
views, and two histories that leave the same words leave the same set. -/
theorem words_agree_after (calls calls' : List Call) :
    let s := afterCalls calls
    let w := calls.foldl PortWords.call .empty
    (∀ p, w.contains p = s.contains p) ∧ w.size = s.size ∧ w.isEmpty = s.isEmpty ∧
      (w = calls'.foldl PortWords.call .empty ↔ s = afterCalls calls') := by
  intro s w
  have hWords : s.toWords = w := toWords_afterCalls calls
  refine ⟨fun p => ?_, ?_, ?_, ?_⟩
  · rw [← hWords, contains_toWords]
  · rw [← hWords, size_toWords]
  · rw [← hWords, isEmpty_toWords]
  · rw [← hWords, ← toWords_afterCalls]
    exact toWords_injective.eq_iff

end PortSet
end ServiceProbe
