import Mathlib.Data.List.Basic
import ServiceProbe.Text.Number

/-! # Hexadecimal digits

A character is a digit of a value by its number alone. A text is read as a number in hexadecimal
digits only if it holds nothing else, and the digits that a number is written with are read back as
the number. -/

namespace ServiceProbe.Text
set_option autoImplicit false

variable {t : Text} {c : Char} {n : Nat}

/-- The number `code` is that of a digit with the value `n`: one of `0` to `9`, or a letter of either
case from `a` to `f`. -/
def IsHexDigit (code n : Nat) : Prop :=
  n < 10 ∧ code = 0x30 + n ∨ 10 ≤ n ∧ n < 16 ∧ (code = 0x57 + n ∨ code = 0x37 + n)

theorem hexValue?_eq_some_iff : hexValue? c = some n ↔ IsHexDigit c.toNat n := by
  have hRanges : hexValue? c =
      if 0x30 ≤ c.toNat ∧ c.toNat ≤ 0x39 then some (c.toNat - 0x30)
      else if 0x61 ≤ c.toNat ∧ c.toNat ≤ 0x66 then some (c.toNat - 0x61 + 10)
      else if 0x41 ≤ c.toNat ∧ c.toNat ≤ 0x46 then some (c.toNat - 0x41 + 10)
      else none := by
    simp only [hexValue?, Char.le_def, UInt32.le_iff_toNat_le, Bool.and_eq_true, decide_eq_true_eq]
    rfl
  rw [hRanges, IsHexDigit]
  repeat' split
  all_goals simp only [Option.some.injEq, reduceCtorEq, false_iff]; omega

theorem isHex_of_isDigit (h : c.isDigit = true) : (hexValue? c).isSome = true := by
  have hRange : ('0' ≤ c && c ≤ '9') = true := h
  rw [hexValue?, if_pos hRange]
  rfl

theorem isHex_of_foldlM {start : Nat}
    (h : t.foldlM (fun n c => (hexValue? c).map (16 * n + ·)) start = some n) :
    ∀ c ∈ t, (hexValue? c).isSome = true := by
  induction t generalizing start with
  | nil => simp
  | cons c t ih =>
    rw [List.foldlM_cons] at h
    obtain ⟨value, hValue, hRest⟩ := Option.bind_eq_some_iff.mp h
    obtain ⟨digit, hDigit, _⟩ := Option.map_eq_some_iff.mp hValue
    exact List.forall_mem_cons.mpr ⟨by rw [hDigit]; rfl, ih hRest⟩

theorem isHex_of_readHex? (h : readHex? t = some n) : ∀ c ∈ t, (hexValue? c).isSome = true := by
  unfold readHex? at h
  split at h
  · cases h
  · exact isHex_of_foldlM h

theorem hexValue?_digitChar : ∀ n : Fin 16, hexValue? (Nat.digitChar n) = some n.val := by decide

theorem foldlM_toDigits (n : Nat) :
    (Nat.toDigits 16 n).foldlM (fun n c => (hexValue? c).map (16 * n + ·)) 0 = some n := by
  induction n using Nat.strongRecOn with
  | ind n ih =>
    by_cases hn : n < 16
    · rw [Nat.toDigits_of_lt_base hn]
      have hDigit := hexValue?_digitChar ⟨n, hn⟩
      simp [hDigit]
    · have hDigit := hexValue?_digitChar ⟨n % 16, Nat.mod_lt n (by decide)⟩
      rw [Nat.toDigits_of_base_le (by decide) (by omega), List.foldlM_append, ih (n / 16) (by omega)]
      simp only [List.foldlM_cons, List.foldlM_nil, hDigit, bind, Option.bind, Option.map, pure]
      rw [Nat.div_add_mod]

theorem readHex?_toDigits (n : Nat) : readHex? (Nat.toDigits 16 n) = some n := by
  have hNonempty : (Nat.toDigits 16 n).isEmpty = false := by
    simp
  rw [readHex?, hNonempty]
  exact foldlM_toDigits n

theorem isHex_of_mem_toDigits (h : c ∈ Nat.toDigits 16 n) : (hexValue? c).isSome = true :=
  isHex_of_readHex? (readHex?_toDigits n) c h

end ServiceProbe.Text
