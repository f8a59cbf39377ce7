import Mathlib.Algebra.Group.Nat.Defs
import Mathlib.Data.List.Forall2
import ServiceProbe.Digits
import ServiceProbe.Proofs.Text.Decoding
import ServiceProbe.Proofs.Text.Replacement
import ServiceProbe.Template

/-! # Rendered templates

A template is rendered segment by segment. What a segment comes to is said without the renderer:
bytes are decoded, occurrences replaced and numbers read as their descriptions have it. -/

namespace ServiceProbe
set_option autoImplicit false

namespace Segment

/-- What a segment comes to for the groups of a match. -/
inductive Renders (groups : Nat → Option Bytes) : Segment → Text → Prop
  | literal (text : Text) : Renders groups (.literal text) text
  | absent {s : Segment} {index : Nat} (hIndex : s.index? = some index)
      (hGroup : groups index = none) : Renders groups s []
  | group {index : Nat} {bytes : Bytes} {t : Text} (hGroup : groups index = some bytes)
      (h : Text.Decodes bytes t) : Renders groups (.group index) t
  | printable {index : Nat} {bytes : Bytes} {t : Text} (hGroup : groups index = some bytes)
      (h : t.utf8 = bytes.filter fun b => 0x20 ≤ b && b ≤ 0x7E) :
      Renders groups (.printable index) t
  | subst {index : Nat} {old new value t : Text} {bytes : Bytes}
      (hGroup : groups index = some bytes) (hValue : Text.Decodes bytes value)
      (h : Text.Replaces old new value t) : Renders groups (.subst index old new) t
  | int {index : Nat} {bytes digits : Bytes} {bigEndian : Bool}
      (hGroup : groups index = some bytes)
      (h : digits = if bigEndian then bytes.take 8 else (bytes.take 8).reverse) :
      Renders groups (.int index bigEndian)
        (Text.ofNat (Digits.value 256 (digits.map UInt8.toNat)))

variable {bytes : Bytes} {groups : Nat → Option Bytes} {index : Nat} {s : Segment} {t : Text}

/-! ## Numbers -/

/-- The shift pushes out zeros only. -/
theorem toNat_shiftLeft_of_room {n : UInt64} (h : n.toNat < 256 ^ 7) :
    (n <<< 8).toNat = n.toNat <<< 8 := by
  have hEight : (8 : UInt64).toNat % 64 = 8 := rfl
  rw [UInt64.toNat_shiftLeft, hEight, Nat.mod_eq_of_lt]
  rw [Nat.shiftLeft_eq]
  omega

theorem toNat_appendByte {n : UInt64} (b : UInt8) (h : n.toNat < 256 ^ 7) :
    (appendByte n b).toNat = 256 * n.toNat + b.toNat := by
  calc
    (appendByte n b).toNat = n.toNat <<< 8 ||| b.toNat := by
      rw [appendByte, UInt64.toNat_or, toNat_shiftLeft_of_room h, UInt8.toNat_toUInt64]
    _ = n.toNat <<< 8 + b.toNat := (Nat.shiftLeft_add_eq_or_of_lt b.toNat_lt n.toNat).symm
    _ = 256 * n.toNat + b.toNat := by rw [Nat.shiftLeft_eq, Nat.mul_comm]

/-- No bit is lost as long as there is room for all digits. -/
theorem toNat_foldl_appendByte (digits : Bytes) {n : UInt64} {held : Nat}
    (hNumber : n.toNat < 256 ^ held) (hRoom : held + digits.length ≤ 8) :
    (digits.foldl appendByte n).toNat =
      (digits.map UInt8.toNat).foldl (fun n d => 256 * n + d) n.toNat := by
  induction digits generalizing n held with
  | nil => rfl
  | cons b digits ih =>
    rw [List.length_cons] at hRoom
    have hByte : b.toNat < 256 := b.toNat_lt
    have hHeld : 256 ^ held ≤ 256 ^ 7 := Nat.pow_le_pow_right (by decide) (by omega)
    have hStep := toNat_appendByte b (Nat.lt_of_lt_of_le hNumber hHeld)
    have hNext : (appendByte n b).toNat < 256 ^ (held + 1) := by
      rw [hStep, Nat.pow_succ]
      omega
    rw [List.foldl_cons, ih hNext (by omega), hStep]
    rfl

theorem toNat_number (bigEndian : Bool) (bytes : Bytes) : (number bigEndian bytes).toNat =
    Digits.value 256 ((if bigEndian then bytes.take 8 else (bytes.take 8).reverse).map
      UInt8.toNat) := by
  have hStart : (0 : UInt64).toNat < 256 ^ 0 := by decide
  apply toNat_foldl_appendByte _ hStart
  rw [Nat.zero_add]
  split
  · exact List.length_take_le 8 bytes
  · rw [List.length_reverse]
    exact List.length_take_le 8 bytes

/-! ## Segments -/

theorem utf8_map_printable (h : ∀ b ∈ bytes, isPrintable b = true) :
    Text.utf8 (bytes.map fun b => Char.ofNat b.toNat) = bytes := by
  induction bytes with
  | nil => rfl
  | cons b bytes ih =>
    obtain ⟨hb, hBytes⟩ := List.forall_mem_cons.mp h
    have hAscii : b.toNat < 0x80 := by
      simp [isPrintable, UInt8.le_iff_toNat_le] at hb
      omega
    have hFirst : Text.utf8 ((b :: bytes).map fun b => Char.ofNat b.toNat) =
        String.utf8EncodeChar (Char.ofNat b.toNat) ++
          Text.utf8 (bytes.map fun b => Char.ofNat b.toNat) := rfl
    rw [hFirst, Text.utf8EncodeChar_of_ascii hAscii, ih hBytes]
    rfl

theorem render_absent (hIndex : s.index? = some index) (hGroup : groups index = none) :
    s.render groups = [] := by
  simp only [render, hIndex, hGroup]

theorem render_present (hIndex : s.index? = some index) (hGroup : groups index = some bytes) :
    s.render groups = s.renderGroup bytes := by
  simp only [render, hIndex, hGroup]

theorem utf8_renderGroup_printable (index : Nat) (bytes : Bytes) :
    Text.utf8 ((printable index).renderGroup bytes) = bytes.filter isPrintable :=
  utf8_map_printable fun _ hb => (List.mem_filter.mp hb).2

theorem renders_renderGroup (hIndex : s.index? = some index) (hGroup : groups index = some bytes) :
    s.Renders groups (s.renderGroup bytes) := by
  cases s with
  | literal text => cases hIndex
  | group index =>
    cases hIndex
    exact .group hGroup (Text.decodes_decodeLossy bytes)
  | printable index =>
    cases hIndex
    exact .printable hGroup (utf8_renderGroup_printable index bytes)
  | subst index old new =>
    cases hIndex
    exact .subst hGroup (Text.decodes_decodeLossy bytes) (Text.replaces_iff.mpr rfl)
  | int index bigEndian =>
    cases hIndex
    rw [renderGroup, toNat_number]
    exact .int hGroup rfl

theorem renders_iff : s.Renders groups t ↔ s.render groups = t := by
  constructor
  · intro h
    cases h with
    | literal text => rfl
    | absent hIndex hGroup => exact render_absent hIndex hGroup
    | group hGroup h => rw [render_present rfl hGroup, renderGroup, Text.decodes_iff.mp h]
    | @printable index _ _ hGroup h =>
      rw [render_present rfl hGroup]
      exact Text.utf8_injective ((utf8_renderGroup_printable index _).trans h.symm)
    | subst hGroup hValue h =>
      rw [render_present rfl hGroup, renderGroup, Text.decodes_iff.mp hValue,
        Text.replaces_iff.mp h]
    | int hGroup h => rw [render_present rfl hGroup, renderGroup, toNat_number, h]
  · rintro rfl
    cases hIndex : s.index? with
    | none =>
      cases s with
      | literal text => exact .literal text
      | _ => cases hIndex
    | some index =>
      cases hGroup : groups index with
      | none =>
        rw [render_absent hIndex hGroup]
        exact .absent hIndex hGroup
      | some bytes =>
        rw [render_present hIndex hGroup]
        exact renders_renderGroup hIndex hGroup

end Segment

namespace Template

def Renders (groups : Nat → Option Bytes) (template : Template) (t : Text) : Prop :=
  ∃ parts, List.Forall₂ (Segment.Renders groups) template parts ∧ t = parts.flatten

theorem forall₂_iff_map_eq {α β : Type} {R : α → β → Prop} {f : α → β}
    (h : ∀ a b, R a b ↔ f a = b) (l : List α) (l' : List β) :
    List.Forall₂ R l l' ↔ l.map f = l' := by
  have hSame : R = fun a b => f a = b := funext₂ fun a b => propext (h a b)
  rw [hSame, ← List.forall₂_map_left_iff, List.forall₂_eq_eq_eq]

theorem renders_iff {groups : Nat → Option Bytes} {template : Template} {t : Text} :
    template.Renders groups t ↔ template.render groups = t := by
  have hSegment (s : Segment) (t : Text) : s.Renders groups t ↔ s.render groups = t :=
    Segment.renders_iff
  have hParts := forall₂_iff_map_eq hSegment template
  constructor
  · rintro ⟨parts, hAll, rfl⟩
    rw [render, List.flatMap, (hParts parts).mp hAll]
  · rintro rfl
    exact ⟨_, (hParts _).mpr rfl, rfl⟩

end Template
end ServiceProbe
