import Mathlib.Data.List.TakeWhile
import ServiceProbe.Json.Reader
import ServiceProbe.Proofs.Text.Separated

/-! # Whole numbers read back

A number that fits into a word of 64 bits is read back from its decimal digits in front of anything
that cannot belong to a number. Its size is far below that of the numbers that are refused. -/

namespace ServiceProbe
set_option autoImplicit false

/-! ## Sizes -/

namespace Decimal

variable {n : Nat}

theorem nearest_le (num den : Nat) : nearest num den ≤ num + 1 := by
  have hQuotient := Nat.div_le_self num den
  unfold nearest
  dsimp only
  split <;> omega

namespace Binary

theorem exponentOf_bounds (num den : Nat) :
    (num.log2 : Int) - den.log2 - places ≤ exponentOf num den ∧
      exponentOf num den ≤ num.log2 - den.log2 - (places - 1) := by
  unfold exponentOf
  dsimp only
  split <;> omega

theorem exponent_normal_le (mantissa : Nat) (exponent : Int) :
    (normal mantissa exponent).exponent ≤ exponent + 1 := by
  unfold normal
  split
  · exact Int.le_refl _
  · exact Int.le_add_one (Int.le_refl _)

theorem exponent_ofQuotient_le (num den : Nat) : (ofQuotient num den).exponent ≤ num.log2 := by
  unfold ofQuotient
  split
  · exact Int.natCast_nonneg _
  · obtain ⟨_, hUpper⟩ := exponentOf_bounds num den
    have hNormal := exponent_normal_le
      (nearest (shiftDown 2 (exponentOf num den) num den).1
        (shiftDown 2 (exponentOf num den) num den).2) (exponentOf num den)
    have hPlaces : (places : Int) = 53 := rfl
    dsimp only
    omega

theorem mantissa_normal_le (mantissa : Nat) (exponent : Int) :
    (normal mantissa exponent).mantissa ≤ mantissa := by
  unfold normal
  split
  · rename_i h
    rw [h]
    exact (by decide : 1 <<< (places - 1) ≤ 1 <<< places)
  · exact Nat.le_refl _

theorem shiftDown_le {place : Int} (h : -places ≤ place) (num den : Nat) :
    (shiftDown 2 place num den).1 ≤ num * (1 <<< places) := by
  unfold shiftDown
  split
  · exact Nat.le_mul_of_pos_right num (by decide)
  · have hPower : Nat.pow 2 (-place).toNat ≤ Nat.pow 2 places :=
      Nat.pow_le_pow_right (by decide) (by omega)
    rw [Nat.one_shiftLeft]
    exact Nat.mul_le_mul_left num hPower

theorem mantissa_ofNat_lt (h : n < UInt64.size) : (ofNat n).mantissa < 1 <<< 118 := by
  unfold ofNat ofQuotient
  split
  · decide
  · obtain ⟨hLower, _⟩ := exponentOf_bounds n 1
    have hLog : (1 : Nat).log2 = 0 := by decide
    have hShifted : (shiftDown 2 (exponentOf n 1) n 1).1 ≤ n * (1 <<< places) :=
      shiftDown_le (by omega) n 1
    have hNearest := nearest_le (shiftDown 2 (exponentOf n 1) n 1).1
      (shiftDown 2 (exponentOf n 1) n 1).2
    have hNormal := mantissa_normal_le
      (nearest (shiftDown 2 (exponentOf n 1) n 1).1 (shiftDown 2 (exponentOf n 1) n 1).2)
      (exponentOf n 1)
    have hPlaces : 1 <<< places = 9007199254740992 := by decide
    have hBound : 1 <<< 118 = 332306998946228968225951765070086144 := by decide
    rw [hPlaces] at hShifted
    rw [hBound]
    simp only [UInt64.size] at h
    dsimp only
    omega

theorem log2_lt_of_lt {k : Nat} (h : n < 1 <<< k) (hk : 0 < k) : n.log2 < k := by
  by_cases hZero : n = 0
  · rw [hZero]
    exact hk
  · rw [Nat.log2_lt hZero, ← Nat.one_shiftLeft]
    exact h

theorem numerator_ofNat_lt (h : n < UInt64.size) : (ofNat n).toQuotient.1 < 1 <<< 182 := by
  have hMantissa := mantissa_ofNat_lt h
  have hExponent : (ofNat n).exponent ≤ n.log2 := exponent_ofQuotient_le n 1
  have hLog : n.log2 < 64 := log2_lt_of_lt h (by decide)
  have hSmall : (ofNat n).mantissa <<< (ofNat n).exponent.toNat < 1 <<< 182 := by
    have hPower : Nat.pow 2 (ofNat n).exponent.toNat ≤ Nat.pow 2 64 :=
      Nat.pow_le_pow_right (by decide) (by omega)
    rw [Nat.shiftLeft_eq]
    calc
      _ ≤ (ofNat n).mantissa * Nat.pow 2 64 := Nat.mul_le_mul_left _ hPower
      _ < (1 <<< 118) * Nat.pow 2 64 := Nat.mul_lt_mul_of_pos_right hMantissa (by decide)
      _ = 1 <<< 182 := by decide
  unfold toQuotient
  split
  · exact hSmall
  · exact Nat.lt_trans hMantissa (by decide)

theorem exponent_mul_one_lt (h : n < UInt64.size) : ((ofNat n).mul (ofNat 1)).exponent < 240 := by
  have hOne : (ofNat 1).toQuotient = (1 <<< 52, 1 <<< 52) := by decide
  have hProduct : (ofNat n).mul (ofNat 1) =
      ofQuotient ((ofNat n).toQuotient.1 * 1 <<< 52) ((ofNat n).toQuotient.2 * 1 <<< 52) := by
    rw [mul, hOne]
  have hNumerator : (ofNat n).toQuotient.1 * 1 <<< 52 < 1 <<< 240 := by
    have hBound := numerator_ofNat_lt h
    calc
      _ < (1 <<< 182) * 1 <<< 52 := Nat.mul_lt_mul_of_pos_right hBound (by decide)
      _ < 1 <<< 240 := by decide
  have hLog := log2_lt_of_lt hNumerator (by decide)
  have hExponent := exponent_ofQuotient_le ((ofNat n).toQuotient.1 * 1 <<< 52)
    ((ofNat n).toQuotient.2 * 1 <<< 52)
  rw [hProduct]
  omega

end Binary
end Decimal

/-! ## Digits -/

namespace Text

theorem head?_ofNat_ne_zero {n : Nat} (h : 0 < n) : (ofNat n).head? ≠ some '0' := by
  induction n using Nat.strongRecOn with
  | ind n ih =>
    unfold ofNat at ih ⊢
    by_cases hn : n < 10
    · have hDigit : ∀ d : Fin 10, 0 < d.val → Nat.digitChar d ≠ '0' := by decide
      rw [Nat.toDigits_of_lt_base hn]
      exact fun hZero => hDigit ⟨n, hn⟩ h (Option.some.inj hZero)
    · rw [Nat.toDigits_of_base_le (by decide) (by omega),
        List.head?_append_of_ne_nil _ Nat.toDigits_ne_nil]
      exact ih (n / 10) (by omega) (by omega)

end Text

namespace JsonReader

variable {n : Nat} {rest : Text}

/-- What may follow a value: the end of the text, a comma, or the end of an array or object. -/
def Ends (rest : Text) : Prop := ∀ c, rest.head? = some c → c = ',' ∨ c = ']' ∨ c = '\x7d'

theorem isGap_of_isDigit {c : Char} (h : c.isDigit = true) : isGap c = false := by
  simp only [isGap, Bool.or_eq_false_iff, decide_eq_false_iff_not]
  refine ⟨⟨⟨?_, ?_⟩, ?_⟩, ?_⟩ <;> rintro rfl <;> exact absurd h (by decide)

theorem isHuge_zero (h : n < UInt64.size) : isHuge n 0 = false := by
  have hExponent := Decimal.Binary.exponent_mul_one_lt h
  have hPlaces : (Decimal.Binary.places : Int) = 53 := rfl
  have hNot : ¬ (1024 : Int) <
      ((Decimal.Binary.ofNat n).mul (Decimal.Binary.ofNat 1)).exponent + Decimal.Binary.places := by
    omega
  unfold isHuge
  split
  · rfl
  · rw [if_neg (by decide)]
    exact decide_eq_false hNot

theorem le_foldl_digits (digits : Text) (n : Nat) :
    n ≤ digits.foldl (fun n c => 10 * n + Text.digitValue c) n := by
  induction digits generalizing n with
  | nil => exact Nat.le_refl n
  | cons c digits ih => exact Nat.le_trans (by omega) (ih (10 * n + Text.digitValue c))

theorem takeIn_of_lt {digits : Text} {start : Nat}
    (h : digits.foldl (fun n c => 10 * n + Text.digitValue c) start < UInt64.size) :
    takeIn start digits = (digits.foldl (fun n c => 10 * n + Text.digitValue c) start, []) := by
  induction digits generalizing start with
  | nil => rfl
  | cons c digits ih =>
    have hNext := Nat.lt_of_le_of_lt (le_foldl_digits digits (10 * start + Text.digitValue c)) h
    rw [takeIn, if_pos hNext, ih h]
    rfl

theorem scaled_ofNat (h : n < UInt64.size) : scaled (Text.ofNat n) [] 0 = (n, 0) := by
  have hValue : (Text.ofNat n).foldl (fun n c => 10 * n + Text.digitValue c) 0 = n :=
    Nat.ofDigitChars_eq_foldl.symm.trans Nat.ofDigitChars_ten_toDigits
  have hTaken : takeIn 0 (Text.ofNat n) = (n, []) := by
    rw [takeIn_of_lt (by rwa [hValue]), hValue]
  simp only [scaled, hTaken, takeIn]
  rfl

theorem digits_ofNat (hEnds : Ends rest) (n : Nat) :
    digits (Text.ofNat n ++ rest) = (Text.ofNat n, rest) := by
  have hRest : ∀ c, rest.head? = some c → ¬ c.isDigit = true := by
    intro c hc
    rcases hEnds c hc with rfl | rfl | rfl <;> decide
  have hTake : rest.takeWhile Char.isDigit = [] := by
    cases rest with
    | nil => rfl
    | cons c rest => exact List.takeWhile_cons_of_neg (hRest c rfl)
  have hDrop : rest.dropWhile Char.isDigit = rest := by
    cases rest with
    | nil => rfl
    | cons c rest => exact List.dropWhile_cons_of_neg (hRest c rfl)
  have hDigits : ∀ c ∈ Text.ofNat n, c.isDigit = true := fun c hc => Text.isDigit_of_mem_ofNat hc
  rw [digits, List.takeWhile_append_of_pos hDigits, List.dropWhile_append_of_pos hDigits, hTake, hDrop,
    List.append_nil]

theorem wholePart_ofNat (hEnds : Ends rest) (n : Nat) :
    wholePart false (Text.ofNat n ++ rest) = .ok (Text.ofNat n, rest) := by
  have hSome : someDigits false (Text.ofNat n ++ rest) = .ok (Text.ofNat n, rest) := by
    unfold someDigits
    rw [digits_ofNat hEnds]
    split
    · rename_i hNone
      exact absurd (Prod.mk.inj hNone).1 (Text.ofNat_ne_nil n)
    · rfl
  have hLeading : ¬ ((Text.ofNat n).head? = some '0' ∧ 1 < (Text.ofNat n).length) := by
    rintro ⟨hZero, hLong⟩
    by_cases hn : n = 0
    · subst hn
      exact absurd hLong (by decide)
    · exact Text.head?_ofNat_ne_zero (Nat.pos_of_ne_zero hn) hZero
  have hCheck : ((Text.ofNat n).head? = some '0' && 1 < (Text.ofNat n).length) = false := by
    simpa only [Bool.and_eq_false_iff, decide_eq_false_iff_not, not_and_or] using hLeading
  simp only [wholePart, hSome, bind, Except.bind, hCheck]
  rfl

theorem fractionPart_of_ends (hEnds : Ends rest) : fractionPart false rest = .ok (none, rest) := by
  unfold fractionPart
  split
  · rcases hEnds '.' rfl with h | h | h <;> exact absurd h (by decide)
  · rfl

theorem exponentPart_of_ends (hEnds : Ends rest) : exponentPart false rest = .ok (none, rest) := by
  unfold exponentPart
  split
  · rename_i c t
    have hLetter : ¬ (c = 'e' || c = 'E') = true := by
      rcases hEnds c rfl with rfl | rfl | rfl <;> decide
    rw [if_neg hLetter]
    rfl
  · rfl

theorem exists_head_ofNat (n : Nat) : ∃ c t, Text.ofNat n = c :: t ∧ c.isDigit = true := by
  obtain ⟨c, t, hText⟩ := List.exists_cons_of_ne_nil (Text.ofNat_ne_nil n)
  exact ⟨c, t, hText, Text.isDigit_of_mem_ofNat (hText ▸ List.mem_cons_self)⟩

theorem numeral_ofNat (hEnds : Ends rest) (h : n < UInt64.size) :
    numeral false (Text.ofNat n ++ rest) = .ok (.natural n, rest) := by
  obtain ⟨c, t, hText, hDigit⟩ := exists_head_ofNat n
  have hSign : ¬ (Text.ofNat n ++ rest).head? = some '-' := by
    rw [hText]
    rintro ⟨⟩
    exact absurd hDigit (by decide)
  have hFits : (UInt64.size ≤ n) = False := eq_false (Nat.not_le_of_lt h)
  simp only [numeral, numeralFrom, hSign, decide_false, if_false,
    wholePart_ofNat hEnds, fractionPart_of_ends hEnds, exponentPart_of_ends hEnds, bind, Except.bind,
    Option.getD_none, scaled_ofNat h, isHuge_zero h, Text.readDecimal?_ofNat, Option.getD_some,
    Option.isNone_none, classify, hFits]
  rfl

end JsonReader
end ServiceProbe
