import ServiceProbe.Proofs.Payload.Spelling
import ServiceProbe.Proofs.Probe.Header
import ServiceProbe.Proofs.Text.Decoding

/-! # Items of payloads

The text of a payload is decoded exactly if its bytes are items one after the other, and to one byte
for each of them: a byte for itself, a backslash and the byte that it escapes, or a hexadecimal code.
The reader of codes takes a plus sign in place of the first digit, which the notation does not know;
any other text is refused, and the probe with it. -/

namespace ServiceProbe.Payload
set_option autoImplicit false

open Text (IsHexDigit)

/-- The control codes, each by the letter that names it: `0`, `a`, `b`, `f`, `n`, `r`, `t` and `v`. -/
def controls : List (UInt8 × UInt8) :=
  [(0x30, 0x00), (0x61, 0x07), (0x62, 0x08), (0x66, 0x0C), (0x6E, 0x0A), (0x72, 0x0D), (0x74, 0x09),
    (0x76, 0x0B)]

/-- The bytes of one item, and the byte that it stands for. The byte 0x5C is the backslash, and 0x78
the letter `x`. -/
inductive IsItem : UInt8 → Bytes → Prop
  | plain {b : UInt8} (h : b ≠ 0x5C) : IsItem b [b]
  | control {e b : UInt8} (h : controls.lookup e = some b) : IsItem b [0x5C, e]
  | literal {e : UInt8} (hControl : controls.lookup e = none) (hCode : e ≠ 0x78) : IsItem e [0x5C, e]
  | code {a b : UInt8} {high low : Nat} (hHigh : IsHexDigit a.toNat high)
    (hLow : IsHexDigit b.toNat low) : IsItem (UInt8.ofNat (16 * high + low)) [0x5C, 0x78, a, b]

/-- The items, and the codes with a plus sign in place of their first digit. -/
inductive IsReadable : UInt8 → Bytes → Prop
  | item {b : UInt8} {bs : Bytes} (h : IsItem b bs) : IsReadable b bs
  | signed {b : UInt8} {low : Nat} (hLow : IsHexDigit b.toNat low) :
    IsReadable (UInt8.ofNat low) [0x5C, 0x78, 0x2B, b]

/-- Pieces one after the other, with a byte of the payload for each. -/
inductive Composed (Piece : UInt8 → Bytes → Prop) : Bytes → Bytes → Prop
  | nil : Composed Piece [] []
  | cons {b : UInt8} {piece payload bs : Bytes} (hPiece : Piece b piece)
    (hRest : Composed Piece payload bs) : Composed Piece (b :: payload) (piece ++ bs)

variable {a b e : UInt8} {bs rest payload : Bytes} {n : Nat}

/-! ## Single items -/

theorem unescape_eq_lookup (e : UInt8) : unescape e = (controls.lookup e).getD e := by
  unfold unescape controls
  simp only [List.lookup_cons, List.lookup_nil]
  repeat' split
  all_goals simp_all

theorem isItem_escaped (h : e ≠ 0x78) : IsItem (unescape e) [0x5C, e] := by
  rw [unescape_eq_lookup]
  cases hLookup : controls.lookup e with
  | none => exact .literal hLookup h
  | some b => exact .control hLookup

theorem char_eq_plus_iff : Char.ofNat b.toNat = '+' ↔ b = 0x2B := by
  have hb := b.toNat_lt
  rw [← Char.toNat_inj, Text.toNat_charOfNat (by omega), ← UInt8.toNat_inj]
  rfl

theorem hexValue?_ofNat_iff : Text.hexValue? (Char.ofNat b.toNat) = some n ↔ IsHexDigit b.toNat n := by
  have hb := b.toNat_lt
  rw [Text.hexValue?_eq_some_iff, Text.toNat_charOfNat (by omega)]

theorem not_le_of_isHexDigit (h : IsHexDigit b.toNat n) : ¬ 0x80 ≤ b := by
  rw [UInt8.le_iff_toNat_le, Nat.not_le]
  change b.toNat < 0x80
  unfold IsHexDigit at h
  omega

theorem not_isHexDigit_plus : ¬ IsHexDigit (0x2B : UInt8).toNat n := by
  change ¬ IsHexDigit 0x2B n
  unfold IsHexDigit
  omega

theorem readHex?_two (a b : UInt8) :
    Text.readHex? (Text.dropPlus [Char.ofNat a.toNat, Char.ofNat b.toNat]) =
      if a = 0x2B then Text.hexValue? (Char.ofNat b.toNat)
      else (Text.hexValue? (Char.ofNat a.toNat)).bind fun high =>
        (Text.hexValue? (Char.ofNat b.toNat)).map (16 * high + ·) := by
  have hDrop {c d : Char} : Text.dropPlus [c, d] = if c = '+' then [d] else [c, d] := by
    split
    · rename_i hPlus
      rw [hPlus]
      rfl
    · rename_i hOther
      unfold Text.dropPlus
      split
      · rename_i hEqual
        exact absurd (List.cons.inj hEqual).1 hOther
      · rfl
  rw [hDrop]
  simp only [char_eq_plus_iff]
  split <;> simp [Text.readHex?]

/-- Two bytes are a code if both are digits, or if the second one is and the first is a plus sign. -/
theorem code?_eq_some_iff : code? a b = some e ↔
    (∃ high low, IsHexDigit a.toNat high ∧ IsHexDigit b.toNat low ∧
        e = UInt8.ofNat (16 * high + low)) ∨
      a = 0x2B ∧ ∃ low, IsHexDigit b.toNat low ∧ e = UInt8.ofNat low := by
  rw [code?, readHex?_two]
  split
  · rename_i hHigh
    simp only [Bool.or_eq_true, decide_eq_true_eq] at hHigh
    simp only [reduceCtorEq, false_iff]
    rintro (⟨_, _, ha, hb, _⟩ | ⟨rfl, _, hb, _⟩)
    · exact hHigh.elim (not_le_of_isHexDigit ha) (not_le_of_isHexDigit hb)
    · exact hHigh.elim (by decide) (not_le_of_isHexDigit hb)
  · split
    · rename_i hPlus
      subst hPlus
      simp only [Option.map_eq_some_iff, hexValue?_ofNat_iff, not_isHexDigit_plus, false_and,
        exists_false, false_or, true_and, eq_comm (a := e)]
    · rename_i hOther
      simp only [Option.map_eq_some_iff, Option.bind_eq_some_iff, hexValue?_ofNat_iff, hOther,
        false_and, or_false]
      constructor
      · rintro ⟨_, ⟨high, hHigh, low, hLow, rfl⟩, rfl⟩
        exact ⟨high, low, hHigh, hLow, rfl⟩
      · rintro ⟨high, low, hHigh, hLow, rfl⟩
        exact ⟨_, ⟨high, hHigh, low, hLow, rfl⟩, rfl⟩

/-! ## Sequences -/

theorem decode_append (h : IsReadable b bs) (rest : Bytes) :
    decode (bs ++ rest) = (b :: ·) <$> decode rest := by
  cases h with
  | item hItem =>
    cases hItem with
    | plain hPlain => exact decode_plain hPlain rest
    | @control e _ hControl =>
      have hCode : e ≠ 0x78 := by
        rintro rfl
        cases hControl
      have hValue : unescape e = b := by rw [unescape_eq_lookup, hControl, Option.getD_some]
      exact hValue ▸ decode_named hCode rest
    | literal hControl hCode =>
      have hValue : unescape b = b := by rw [unescape_eq_lookup, hControl, Option.getD_none]
      exact (decode_named hCode rest).trans (by rw [hValue])
    | code hHigh hLow => exact decode_coded (code?_eq_some_iff.mpr (.inl ⟨_, _, hHigh, hLow, rfl⟩)) rest
  | signed hLow => exact decode_coded (code?_eq_some_iff.mpr (.inr ⟨rfl, _, hLow, rfl⟩)) rest

theorem isReadable_of_code? (h : code? a b = some e) : IsReadable e [0x5C, 0x78, a, b] := by
  rcases code?_eq_some_iff.mp h with ⟨_, _, hHigh, hLow, rfl⟩ | ⟨rfl, _, hLow, rfl⟩
  · exact .item (.code hHigh hLow)
  · exact .signed hLow

theorem decode_of_composed (h : Composed IsReadable payload bs) : decode bs = .ok payload := by
  induction h with
  | nil => rfl
  | cons hPiece _ ih =>
    rw [decode_append hPiece, ih]
    rfl

theorem exists_of_cons_decode (h : (b :: ·) <$> decode rest = .ok payload) :
    ∃ others, decode rest = .ok others ∧ payload = b :: others := by
  cases hRest : decode rest with
  | error fault =>
    rw [hRest] at h
    cases h
  | ok others =>
    rw [hRest] at h
    cases h
    exact ⟨others, rfl, rfl⟩

theorem composed_of_decode (h : decode bs = .ok payload) : Composed IsReadable payload bs := by
  fun_induction decode bs generalizing payload with
  | case1 =>
    cases h
    exact .nil
  | case2 b rest hPlain ih =>
    obtain ⟨others, hRest, rfl⟩ := exists_of_cons_decode h
    exact .cons (.item (.plain (bne_iff_ne.mp hPlain))) (ih hRest)
  | case4 b hEscape e rest hNamed ih =>
    obtain rfl : b = 0x5C := by simpa using hEscape
    obtain ⟨others, hRest, rfl⟩ := exists_of_cons_decode h
    exact .cons (.item (isItem_escaped (bne_iff_ne.mp hNamed))) (ih hRest)
  | case5 b hEscape e hCode high low rest value hValue ih =>
    obtain rfl : b = 0x5C := by simpa using hEscape
    obtain rfl : e = 0x78 := by simpa using hCode
    obtain ⟨others, hRest, rfl⟩ := exists_of_cons_decode h
    exact .cons (isReadable_of_code? hValue) (ih hRest)
  -- an escape that is cut off, or whose code is none
  | case3 => cases h
  | case6 => cases h
  | case7 => cases h

theorem decode_eq_ok_iff : decode bs = .ok payload ↔ Composed IsReadable payload bs :=
  ⟨composed_of_decode, decode_of_composed⟩

theorem exists_decode_error_iff :
    (∃ fault, decode bs = .error fault) ↔ ¬ ∃ payload, Composed IsReadable payload bs := by
  simp only [← decode_eq_ok_iff]
  cases decode bs <;> simp

theorem Composed.to_readable (h : Composed IsItem payload bs) : Composed IsReadable payload bs := by
  induction h with
  | nil => exact .nil
  | cons hPiece _ ih => exact .cons (.item hPiece) ih

/-- Only a sign behind `\x` makes a difference. -/
theorem Composed.to_items (h : Composed IsReadable payload bs) (hFree : ¬ [0x5C, 0x78, 0x2B] <:+: bs) :
    Composed IsItem payload bs := by
  induction h with
  | nil => exact .nil
  | @cons b piece payload bs hPiece _ ih =>
    cases hPiece with
    | item hItem =>
      exact .cons hItem (ih fun hIn => hFree (hIn.trans (List.suffix_append piece bs).isInfix))
    | @signed low _ _ => exact absurd ⟨[], low :: bs, rfl⟩ hFree

/-! ## Payloads of headers -/

/-- A payload text is decoded if and only if it is made of readable items, to a byte for each; where
no sign follows `\x`, these are the items of the notation. Any other text is a parse error, and a
header with it declares no probe. -/
theorem decoded_exactly_if_composed (raw : Text) :
    let bytes := Text.utf8 raw
    (∀ payload, decode bytes = .ok payload ↔ Composed IsReadable payload bytes) ∧
      (¬ [0x5C, 0x78, 0x2B] <:+: bytes →
        ∀ payload, decode bytes = .ok payload ↔ Composed IsItem payload bytes) ∧
      ∀ header body protocol name, Probe.Declares header protocol name raw →
        (∀ payload, Composed IsReadable payload bytes →
          ∃ p faults, Probe.compile (header :: body) = .ok (p, faults) ∧ p.payload = payload) ∧
        ((¬ ∃ payload, Composed IsReadable payload bytes) → ∃ fault detail,
          Probe.compile (header :: body) = .error fault ∧ fault.toError = .parse detail) := by
  intro bytes
  refine ⟨fun payload => decode_eq_ok_iff, fun hFree payload => ?_, ?_⟩
  · rw [decode_eq_ok_iff]
    exact ⟨fun h => h.to_items hFree, Composed.to_readable⟩
  · intro header body protocol name hHeader
    constructor
    · intro payload hComposed
      apply hHeader.compile_of_payload
      rw [Probe.readPayload, decode_of_composed hComposed]
      rfl
    · intro hNone
      obtain ⟨fault, hFault⟩ := exists_decode_error_iff.mpr hNone
      have hPayload : Probe.readPayload raw = .error (.badPayload fault raw) := by
        rw [Probe.readPayload, hFault]
        rfl
      exact ⟨_, _, hHeader.compile_of_fault hPayload, rfl⟩

/-- A payload of three kinds of items, and one whose last code is cut off. -/
theorem decoded_exactly_if_composed_of_mixed :
    (∃ p faults, Probe.compile ["Probe TCP A q|a\\-\\x7e|".toList] = .ok (p, faults) ∧
        p.payload = [0x61, 0x2D, 0x7E]) ∧
      ∃ fault detail, Probe.compile ["Probe TCP A q|a\\x7|".toList] = .error fault ∧
        fault.toError = .parse detail := by
  have hMixed : Probe.Declares "Probe TCP A q|a\\-\\x7e|".toList .tcp ['A'] "a\\-\\x7e".toList :=
    ⟨_, _, _, _, rfl, rfl, rfl, rfl, rfl⟩
  have hShort : Probe.Declares "Probe TCP A q|a\\x7|".toList .tcp ['A'] "a\\x7".toList :=
    ⟨_, _, _, _, rfl, rfl, rfl, rfl, rfl⟩
  constructor
  · obtain ⟨hDecode, _, hCompile⟩ := decoded_exactly_if_composed "a\\-\\x7e".toList
    have hComposed := (hDecode [0x61, 0x2D, 0x7E]).mp (by decide +kernel)
    exact (hCompile _ [] _ _ hMixed).1 _ hComposed
  · obtain ⟨_, _, hCompile⟩ := decoded_exactly_if_composed "a\\x7".toList
    refine (hCompile _ [] _ _ hShort).2 (exists_decode_error_iff.mp ⟨.badCode, ?_⟩)
    decide +kernel

/-- A code with a sign is decoded, and is no item. -/
theorem not_decoded_only_if_items :
    decode (Text.utf8 "\\x+f".toList) = .ok [0x0F] ∧
      (¬ ∃ payload, Composed IsItem payload (Text.utf8 "\\x+f".toList)) ∧
      ¬ ∀ raw, (∃ payload, decode (Text.utf8 raw) = .ok payload) ↔
        ∃ payload, Composed IsItem payload (Text.utf8 raw) := by
  have hDecode : decode (Text.utf8 "\\x+f".toList) = .ok [0x0F] := by decide +kernel
  have hBytes : Text.utf8 "\\x+f".toList = [0x5C, 0x78, 0x2B, 0x66] := by decide +kernel
  have hNone : ¬ ∃ payload, Composed IsItem payload (Text.utf8 "\\x+f".toList) := by
    rw [hBytes]
    rintro ⟨payload, h⟩
    generalize hAll : ([0x5C, 0x78, 0x2B, 0x66] : Bytes) = bytes at h
    cases h with
    | nil => cases hAll
    | cons hPiece _ =>
      cases hPiece with
      | plain hPlain => exact hPlain (List.cons.inj hAll).1.symm
      | control hControl =>
        obtain ⟨rfl, _⟩ := by simpa using hAll
        cases hControl
      | literal _ hCode =>
        obtain ⟨rfl, _⟩ := by simpa using hAll
        exact hCode rfl
      | code hHigh _ =>
        obtain ⟨rfl, _⟩ := by simpa using hAll
        exact not_isHexDigit_plus hHigh
  exact ⟨hDecode, hNone, fun hAll => hNone ((hAll _).mp ⟨_, hDecode⟩)⟩

end ServiceProbe.Payload
