import Mathlib.Algebra.BigOperators.Intervals
import Mathlib.Algebra.BigOperators.Ring.Finset
import Mathlib.Data.List.GetD
import Mathlib.Data.Nat.Digits.Lemmas
import ServiceProbe.Proofs.Template.Rendering
import ServiceProbe.Proofs.Template.Written

/-! # Numbers in rendered templates

The placeholder for a number makes the sum of up to eight bytes times powers of 256, and its text is
the digits of that sum. The accumulator has room for every byte that is shifted in, so groups of one
length are told apart by their numbers. -/

namespace ServiceProbe
set_option autoImplicit false

/-! ## Digits as sums -/

namespace Digits

variable {base : Nat} {digits digits' : List Nat}

theorem value_eq_ofDigits (base : Nat) (digits : List Nat) :
    value base digits = Nat.ofDigits base digits.reverse := by
  rw [value, Nat.ofDigits_eq_foldr, List.foldr_reverse]
  congr 1
  funext n d
  exact Nat.add_comm (base * n) d

theorem ofDigits_eq_sum (base : Nat) (digits : List Nat) : Nat.ofDigits base digits =
    ∑ i ∈ Finset.range digits.length, digits.getD i 0 * base ^ i := by
  induction digits with
  | nil => rfl
  | cons d digits ih =>
    have hNext (i : Nat) : (d :: digits).getD (i + 1) 0 * base ^ (i + 1) =
        base * (digits.getD i 0 * base ^ i) := by
      rw [List.getD_cons_succ]
      ring
    rw [Nat.ofDigits_cons, ih, List.length_cons, Finset.sum_range_succ']
    simp only [hNext, ← Finset.mul_sum]
    simp [Nat.add_comm]

theorem value_eq_sum (base : Nat) (digits : List Nat) : value base digits =
    ∑ i ∈ Finset.range digits.length, digits.getD i 0 * base ^ (digits.length - 1 - i) := by
  rw [value_eq_ofDigits, ofDigits_eq_sum, List.length_reverse, ← Finset.sum_range_reflect]
  refine Finset.sum_congr rfl fun i hi => ?_
  have hBound := Finset.mem_range.mp hi
  rw [List.getD_eq_getElem?_getD, List.getElem?_reverse (by omega), ← List.getD_eq_getElem?_getD]
  congr 3
  omega

theorem value_reverse_eq_sum (base : Nat) (digits : List Nat) : value base digits.reverse =
    ∑ i ∈ Finset.range digits.length, digits.getD i 0 * base ^ i := by
  rw [value_eq_ofDigits, List.reverse_reverse, ofDigits_eq_sum]

theorem value_lt (hBase : 1 < base) (h : ∀ d ∈ digits, d < base) :
    value base digits < base ^ digits.length := by
  rw [value_eq_ofDigits, ← List.length_reverse]
  exact Nat.ofDigits_lt_base_pow_length hBase fun d hd => h d (List.mem_reverse.mp hd)

theorem value_inj (hBase : 1 < base) (hLength : digits.length = digits'.length)
    (h : ∀ d ∈ digits, d < base) (h' : ∀ d ∈ digits', d < base)
    (hValue : value base digits = value base digits') : digits = digits' := by
  rw [value_eq_ofDigits, value_eq_ofDigits] at hValue
  refine List.reverse_injective (Nat.ofDigits_inj_of_len_eq hBase ?_ ?_ ?_ hValue)
  · rw [List.length_reverse, List.length_reverse, hLength]
  · exact fun d hd => h d (List.mem_reverse.mp hd)
  · exact fun d hd => h' d (List.mem_reverse.mp hd)

end Digits

/-! ## Bytes in the order of their weight -/

namespace Segment

/-- The bytes that are read, the heaviest one in front. -/
def heaviestFirst (bigEndian : Bool) (bytes : Bytes) : Bytes :=
  if bigEndian then bytes.take 8 else (bytes.take 8).reverse

variable {bytes bytes' front back : Bytes} {b : UInt8} {bigEndian : Bool}

theorem length_heaviestFirst (bigEndian : Bool) (bytes : Bytes) :
    (heaviestFirst bigEndian bytes).length = min bytes.length 8 := by
  unfold heaviestFirst
  split <;> simp [Nat.min_comm]

theorem lt_of_mem_map_toNat {n : Nat} (h : n ∈ bytes.map UInt8.toNat) : n < 256 := by
  obtain ⟨b, _, rfl⟩ := List.mem_map.mp h
  exact b.toNat_lt

theorem getD_map_take {i : Nat} (h : i < min bytes.length 8) :
    ((bytes.take 8).map UInt8.toNat).getD i 0 = (bytes.getD i 0).toNat := by
  have hZero : (0 : Nat) = (0 : UInt8).toNat := rfl
  rw [hZero, List.getD_map, List.getD_eq_getElem?_getD, List.getElem?_take_of_lt (by omega),
    ← List.getD_eq_getElem?_getD]

theorem toNat_number_bigEndian (bytes : Bytes) : (number true bytes).toNat =
    ∑ i ∈ Finset.range (min bytes.length 8),
      (bytes.getD i 0).toNat * 256 ^ (min bytes.length 8 - 1 - i) := by
  have hLength : ((bytes.take 8).map UInt8.toNat).length = min bytes.length 8 := by
    rw [List.length_map, List.length_take, Nat.min_comm]
  rw [toNat_number, if_pos rfl, Digits.value_eq_sum, hLength]
  exact Finset.sum_congr rfl fun i hi => by rw [getD_map_take (Finset.mem_range.mp hi)]

theorem toNat_number_littleEndian (bytes : Bytes) : (number false bytes).toNat =
    ∑ i ∈ Finset.range (min bytes.length 8), (bytes.getD i 0).toNat * 256 ^ i := by
  have hLength : ((bytes.take 8).map UInt8.toNat).length = min bytes.length 8 := by
    rw [List.length_map, List.length_take, Nat.min_comm]
  rw [toNat_number, if_neg Bool.false_ne_true, List.map_reverse, Digits.value_reverse_eq_sum, hLength]
  exact Finset.sum_congr rfl fun i hi => by rw [getD_map_take (Finset.mem_range.mp hi)]

theorem number_inj (hLength : bytes.length = bytes'.length) (hShort : bytes.length ≤ 8)
    (h : number bigEndian bytes = number bigEndian bytes') : bytes = bytes' := by
  have hNumber := congrArg UInt64.toNat h
  rw [toNat_number, toNat_number, List.take_of_length_le hShort,
    List.take_of_length_le (hLength ▸ hShort)] at hNumber
  have hSame : ((if bigEndian then bytes else bytes.reverse).map UInt8.toNat).length =
      ((if bigEndian then bytes' else bytes'.reverse).map UInt8.toNat).length := by
    cases bigEndian <;> simp [hLength]
  have hDigits := Digits.value_inj (by decide) hSame (fun _ => lt_of_mem_map_toNat)
    (fun _ => lt_of_mem_map_toNat) hNumber
  have hBytes := List.map_injective_iff.mpr (fun _ _ => UInt8.toNat_inj.mp) hDigits
  cases bigEndian with
  | true => exact hBytes
  | false => exact List.reverse_injective hBytes

theorem number_reverse (hShort : bytes.length ≤ 8) :
    number false bytes = number true bytes.reverse := by
  have hReverse : bytes.reverse.length ≤ 8 := by rwa [List.length_reverse]
  simp only [number, List.take_of_length_le hShort, List.take_of_length_le hReverse, if_true,
    Bool.false_eq_true, if_false]

/-- Before each byte there is room for it. -/
theorem toNat_foldl_lt_of_split (h : heaviestFirst bigEndian bytes = front ++ b :: back) :
    (front.foldl appendByte 0).toNat < 256 ^ 7 := by
  have hLength := congrArg List.length h
  rw [length_heaviestFirst, List.length_append, List.length_cons] at hLength
  have hStart : (0 : UInt64).toNat < 256 ^ 0 := by decide
  have hValue : (front.foldl appendByte 0).toNat = Digits.value 256 (front.map UInt8.toNat) :=
    toNat_foldl_appendByte front hStart (by omega)
  calc
    (front.foldl appendByte 0).toNat < 256 ^ (front.map UInt8.toNat).length :=
      hValue ▸ Digits.value_lt (by decide) fun _ => lt_of_mem_map_toNat
    _ ≤ 256 ^ 7 := Nat.pow_le_pow_right (by decide) (by rw [List.length_map]; omega)

end Segment

/-! ## Placeholders -/

namespace Template

variable {groups : Nat → Option Bytes} {index : Nat} {bytes : Bytes}

theorem parse_int (h : index ≤ groupLimit) (bigEndian : Bool) :
    parse (Segment.int index bigEndian).write = [.int index bigEndian] := by
  have hRead := placeholder?_written (s := .int index bigEndian) rfl h rfl []
  rw [List.append_nil] at hRead
  have hEnd : parse [] = [] := by simp [parse, parseFrom, consLiteral]
  rw [parse, Segment.write, parseFrom_of_some hRead, hEnd]
  rfl

theorem render_int (hIndex : index ≤ groupLimit) (hGroup : groups index = some bytes)
    (bigEndian : Bool) : (parse (Segment.int index bigEndian).write).render groups =
      Text.ofNat (Segment.number bigEndian bytes).toNat := by
  have hSegment : Segment.render groups (.int index bigEndian) =
      Text.ofNat (Segment.number bigEndian bytes).toNat :=
    Segment.render_present rfl hGroup
  rw [parse_int hIndex, render, List.flatMap_singleton, hSegment]

theorem ofNat_injective : Function.Injective Text.ofNat := by
  intro m n h
  have hRead := congrArg Text.readDecimal? h
  rw [Text.readDecimal?_ofNat, Text.readDecimal?_ofNat] at hRead
  exact Option.some.inj hRead

/-- The text of a number placeholder is the number of the group's first eight bytes, no step of the
reading drops a bit, and groups of up to eight bytes are told apart. -/
theorem int_placeholder_keeps_every_bit (hIndex : index ≤ groupLimit)
    (hGroup : groups index = some bytes) :
    let k := min bytes.length 8
    let rendered (bigEndian : Bool) (groups : Nat → Option Bytes) : Text :=
      (parse (Segment.int index bigEndian).write).render groups
    rendered true groups =
        Text.ofNat (∑ i ∈ Finset.range k, (bytes.getD i 0).toNat * 256 ^ (k - 1 - i)) ∧
      rendered false groups =
        Text.ofNat (∑ i ∈ Finset.range k, (bytes.getD i 0).toNat * 256 ^ i) ∧
      (∀ bigEndian, rendered bigEndian groups = Text.ofNat
          ((Segment.heaviestFirst bigEndian bytes).foldl Segment.appendByte 0).toNat ∧
        ∀ front b back, Segment.heaviestFirst bigEndian bytes = front ++ b :: back →
          let n : UInt64 := front.foldl Segment.appendByte 0
          256 * n.toNat + b.toNat < 2 ^ 64 ∧ (n <<< 8).toNat = 256 * n.toNat ∧
            (Segment.appendByte n b).toNat = 256 * n.toNat + b.toNat) ∧
      (bytes.length ≤ 8 →
        (∀ bigEndian groups' other, groups' index = some other → other.length = bytes.length →
          other ≠ bytes → rendered bigEndian groups' ≠ rendered bigEndian groups) ∧
        ∀ groups', groups' index = some bytes.reverse →
          rendered false groups = rendered true groups') := by
  intro k rendered
  refine ⟨?_, ?_, fun bigEndian => ⟨render_int hIndex hGroup bigEndian, fun front b back hSplit => ?_⟩,
    fun hShort => ⟨?_, fun groups' h' => ?_⟩⟩
  · exact (render_int hIndex hGroup true).trans
      (congrArg Text.ofNat (Segment.toNat_number_bigEndian bytes))
  · exact (render_int hIndex hGroup false).trans
      (congrArg Text.ofNat (Segment.toNat_number_littleEndian bytes))
  · have hRoom := Segment.toNat_foldl_lt_of_split hSplit
    have hByte : b.toNat < 256 := b.toNat_lt
    refine ⟨by omega, ?_, Segment.toNat_appendByte b hRoom⟩
    rw [Segment.toNat_shiftLeft_of_room hRoom, Nat.shiftLeft_eq, Nat.mul_comm]
  · intro bigEndian groups' other h' hLength hNe hSame
    have hText : Text.ofNat (Segment.number bigEndian other).toNat =
        Text.ofNat (Segment.number bigEndian bytes).toNat := by
      rw [← render_int hIndex h', ← render_int hIndex hGroup]
      exact hSame
    have hNumber := UInt64.toNat_inj.mp (ofNat_injective hText)
    exact hNe (Segment.number_inj hLength (hLength ▸ hShort) hNumber)
  · calc
      rendered false groups = Text.ofNat (Segment.number false bytes).toNat :=
        render_int hIndex hGroup false
      _ = Text.ofNat (Segment.number true bytes.reverse).toNat := by
        rw [Segment.number_reverse hShort]
      _ = rendered true groups' := (render_int hIndex h' true).symm

/-- One byte more than is read. -/
def nineBytes : Nat → Option Bytes := fun _ => some [1, 2, 3, 4, 5, 6, 7, 8, 9]

theorem int_placeholder_keeps_every_bit_of_nine :
    (parse "$I(1,\">\")".toList).render nineBytes = "72623859790382856".toList ∧
      (parse "$I(1,\"<\")".toList).render nineBytes = "578437695752307201".toList := by
  have hRendered := @int_placeholder_keeps_every_bit nineBytes 1 _ (by decide) rfl
  exact ⟨hRendered.1.trans (by decide), hRendered.2.1.trans (by decide)⟩

end Template
end ServiceProbe
