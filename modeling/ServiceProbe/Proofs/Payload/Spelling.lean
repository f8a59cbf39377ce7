import ServiceProbe.Payload
import ServiceProbe.Proofs.Text.Hexadecimal
import ServiceProbe.Text.Utf8

/-! # Spelled payloads

A payload is spelled byte by byte. A byte may stand for itself if it is a printable character of
ASCII, and any byte may be escaped by its letter, where it has one, or by two hexadecimal digits. No
spelling holds the delimiter of payloads, and every spelling is decoded to the bytes it spells. -/

namespace ServiceProbe.Payload
set_option autoImplicit false

structure IsPrintable (c : Char) : Prop where
  low : 0x20 ≤ c.toNat
  high : c.toNat ≤ 0x7E

inductive Spells : UInt8 → Text → Prop
  | plain {c : Char} (hc : IsPrintable c) (hBar : c ≠ '|') (hBackslash : c ≠ '\\') :
    Spells c.toUInt8 [c]
  | named {c : Char} (hc : IsPrintable c) (hBar : c ≠ '|') (hCode : c ≠ 'x') :
    Spells (unescape c.toUInt8) ['\\', c]
  | coded {a b : Char} {high low : Nat} (hHigh : Text.hexValue? a = some high)
    (hLow : Text.hexValue? b = some low) : Spells (UInt8.ofNat (16 * high + low)) ['\\', 'x', a, b]

def Spelled (payload : Bytes) (t : Text) : Prop :=
  ∃ pieces : List (UInt8 × Text), (∀ piece ∈ pieces, Spells piece.1 piece.2) ∧
    payload = pieces.map Prod.fst ∧ t = pieces.flatMap Prod.snd

/-! ## The characters of a spelling -/

theorem range_of_hexValue? {c : Char} {n : Nat} (h : Text.hexValue? c = some n) :
    0x30 ≤ c.toNat ∧ c.toNat ≤ 0x66 := by
  have hDigit := Text.hexValue?_eq_some_iff.mp h
  unfold Text.IsHexDigit at hDigit
  omega

theorem isPrintable_of_hexValue? {c : Char} {n : Nat} (h : Text.hexValue? c = some n) :
    IsPrintable c ∧ c ≠ '|' := by
  obtain ⟨hLow, hHigh⟩ := range_of_hexValue? h
  refine ⟨⟨by omega, by omega⟩, ?_⟩
  rintro rfl
  exact absurd hHigh (by decide)

theorem Spells.mem {b : UInt8} {t : Text} (h : Spells b t) {c : Char} (hc : c ∈ t) :
    IsPrintable c ∧ c ≠ '|' := by
  have hBackslash : IsPrintable '\\' ∧ '\\' ≠ '|' := ⟨⟨by decide, by decide⟩, by decide⟩
  cases h with
  | plain hPrintable hBar _ =>
    rw [List.mem_singleton.mp hc]
    exact ⟨hPrintable, hBar⟩
  | named hPrintable hBar _ =>
    simp only [List.mem_cons, List.not_mem_nil, or_false] at hc
    rcases hc with rfl | rfl
    · exact hBackslash
    · exact ⟨hPrintable, hBar⟩
  | coded hHigh hLow =>
    simp only [List.mem_cons, List.not_mem_nil, or_false] at hc
    rcases hc with rfl | rfl | rfl | rfl
    · exact hBackslash
    · exact ⟨⟨by decide, by decide⟩, by decide⟩
    · exact isPrintable_of_hexValue? hHigh
    · exact isPrintable_of_hexValue? hLow

theorem Spelled.mem {payload : Bytes} {t : Text} (h : Spelled payload t) {c : Char} (hc : c ∈ t) :
    IsPrintable c ∧ c ≠ '|' := by
  obtain ⟨pieces, hPieces, _, rfl⟩ := h
  obtain ⟨piece, hPiece, hMem⟩ := List.mem_flatMap.mp hc
  exact (hPieces piece hPiece).mem hMem

/-! ## Every payload has a spelling -/

theorem exists_spells (b : UInt8) : ∃ t, Spells b t := by
  have hb := b.toNat_lt
  have hSplit : UInt8.ofNat (16 * (b.toNat / 16) + b.toNat % 16) = b := by
    rw [Nat.div_add_mod, UInt8.ofNat_toNat]
  exact ⟨_, hSplit ▸ Spells.coded (Text.hexValue?_digitChar ⟨b.toNat / 16, by omega⟩)
    (Text.hexValue?_digitChar ⟨b.toNat % 16, Nat.mod_lt _ (by decide)⟩)⟩

theorem exists_spelled (payload : Bytes) : ∃ t, Spelled payload t := by
  induction payload with
  | nil => exact ⟨[], [], by simp, rfl, rfl⟩
  | cons b payload ih =>
    obtain ⟨first, hFirst⟩ := exists_spells b
    obtain ⟨rest, pieces, hPieces, rfl, rfl⟩ := ih
    exact ⟨_, (b, first) :: pieces, List.forall_mem_cons.mpr ⟨hFirst, hPieces⟩, rfl, rfl⟩

/-! ## Decoding -/

theorem toNat_toUInt8 {c : Char} (h : IsPrintable c) : c.toUInt8.toNat = c.toNat := by
  have hBound : c.toNat ≤ 0x7E := h.high
  have hMod : c.toUInt8.toNat = c.toNat % 256 := UInt32.toNat_toUInt8 c.val
  omega

theorem toUInt8_ne {c d : Char} (hc : IsPrintable c) (hd : IsPrintable d) (hNe : c ≠ d) :
    c.toUInt8 ≠ d.toUInt8 := by
  intro hEqual
  have hNat := congrArg UInt8.toNat hEqual
  rw [toNat_toUInt8 hc, toNat_toUInt8 hd] at hNat
  exact hNe (Char.toNat_inj.mp hNat)

theorem utf8_cons {c : Char} (h : IsPrintable c) (t : Text) :
    Text.utf8 (c :: t) = c.toUInt8 :: Text.utf8 t := by
  have hSize : c.utf8Size = 1 := by
    have hBound := h.high
    rw [Char.utf8Size_eq_one_iff, UInt32.le_iff_toNat_le]
    exact Nat.le_succ_of_le hBound
  rw [Text.utf8, List.flatMap_cons, String.utf8EncodeChar_eq_singleton hSize]
  rfl

theorem code?_of_hexValue? {a b : Char} {high low : Nat} (hHigh : Text.hexValue? a = some high)
    (hLow : Text.hexValue? b = some low) :
    code? a.toUInt8 b.toUInt8 = some (UInt8.ofNat (16 * high + low)) := by
  have ha := (isPrintable_of_hexValue? hHigh).1
  have hb := (isPrintable_of_hexValue? hLow).1
  have hAscii {c : Char} (hc : IsPrintable c) : ¬ 0x80 ≤ c.toUInt8 := by
    have hBound := hc.high
    rw [UInt8.le_iff_toNat_le, toNat_toUInt8 hc, Nat.not_le]
    exact Nat.lt_succ_of_le (Nat.le_succ_of_le hBound)
  -- a sign before the digits would be dropped, but a digit is no sign
  have hPlus : Text.dropPlus [a, b] = [a, b] := by
    unfold Text.dropPlus
    split
    · rename_i hEqual
      obtain ⟨rfl, _⟩ := List.cons.inj hEqual
      cases hHigh
    · rfl
  rw [code?, toNat_toUInt8 ha, toNat_toUInt8 hb, Char.ofNat_toNat, Char.ofNat_toNat, hPlus]
  simp [hAscii ha, hAscii hb, Text.readHex?, hHigh, hLow]

theorem decode_plain {b : UInt8} (h : b ≠ 0x5C) (rest : Bytes) :
    decode (b :: rest) = (b :: ·) <$> decode rest := by
  rw [decode.eq_def]
  exact if_pos (bne_iff_ne.mpr h)

theorem decode_named {e : UInt8} (h : e ≠ 0x78) (rest : Bytes) :
    decode (0x5C :: e :: rest) = (unescape e :: ·) <$> decode rest := by
  rw [decode.eq_def]
  exact if_pos (bne_iff_ne.mpr h)

theorem decode_coded {a b value : UInt8} (h : code? a b = some value) (rest : Bytes) :
    decode (0x5C :: 0x78 :: a :: b :: rest) = (value :: ·) <$> decode rest := by
  rw [decode.eq_def]
  simp [h]

theorem decode_spells {b : UInt8} {t : Text} (h : Spells b t) (rest : Text) :
    decode (Text.utf8 (t ++ rest)) = (b :: ·) <$> decode (Text.utf8 rest) := by
  have hBackslash : IsPrintable '\\' := ⟨by decide, by decide⟩
  have hMark : IsPrintable 'x' := ⟨by decide, by decide⟩
  cases h with
  | plain hPrintable _ hNot =>
    rw [List.singleton_append, utf8_cons hPrintable]
    exact decode_plain (toUInt8_ne hPrintable hBackslash hNot) _
  | named hPrintable _ hNot =>
    rw [List.cons_append, List.singleton_append, utf8_cons hBackslash, utf8_cons hPrintable]
    exact decode_named (toUInt8_ne hPrintable hMark hNot) _
  | coded hHigh hLow =>
    simp only [List.cons_append, List.nil_append, utf8_cons hBackslash, utf8_cons hMark,
      utf8_cons (isPrintable_of_hexValue? hHigh).1, utf8_cons (isPrintable_of_hexValue? hLow).1]
    exact decode_coded (code?_of_hexValue? hHigh hLow) _

theorem decode_of_spelled {payload : Bytes} {t : Text} (h : Spelled payload t) :
    decode (Text.utf8 t) = .ok payload := by
  obtain ⟨pieces, hPieces, rfl, rfl⟩ := h
  induction pieces with
  | nil => rfl
  | cons piece pieces ih =>
    obtain ⟨hPiece, hRest⟩ := List.forall_mem_cons.mp hPieces
    rw [List.flatMap_cons, decode_spells hPiece, ih hRest]
    rfl

end ServiceProbe.Payload
