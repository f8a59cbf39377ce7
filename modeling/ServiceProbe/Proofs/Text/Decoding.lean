import Mathlib.Data.List.Basic
import ServiceProbe.Text.Utf8

/-! # Decoding of bytes

What bytes decode to is said by the encodings of characters alone. Where an encoding begins, its
character is read. Elsewhere the bytes are passed over for as long as some encoding begins with
them, at least one, and a replacement character is read for them. -/

namespace ServiceProbe.Text
set_option autoImplicit false

open String (utf8EncodeChar)

/-- Some character is encoded with these bytes in front. -/
def Begins (bs : List UInt8) : Prop := ∃ c, bs <+: utf8EncodeChar c

/-- An ill-formed part in front of further bytes. -/
structure IsIllFormed (part rest : List UInt8) : Prop where
  ne_nil : part ≠ []
  noChar : ∀ c, ¬ utf8EncodeChar c <+: part ++ rest
  begins : part.length = 1 ∨ Begins part
  longest : ∀ b ∈ rest.head?, ¬ Begins (part ++ [b])

inductive Decodes : List UInt8 → Text → Prop
  | nil : Decodes [] []
  | char {rest : List UInt8} {t : Text} (c : Char) (h : Decodes rest t) :
      Decodes (utf8EncodeChar c ++ rest) (c :: t)
  | illFormed {part rest : List UInt8} {t : Text} (hPart : IsIllFormed part rest)
      (h : Decodes rest t) : Decodes (part ++ rest) (replacement :: t)

variable {a b : UInt8} {n : Nat} {bs part rest : List UInt8} {c : Char} {t : Text}

/-! ## Single bytes -/

theorem utf8Width?_eq_some_iff : utf8Width? a = some n ↔
    (n = 1 ∧ a.toNat < 0x80) ∨ (n = 2 ∧ 0xC2 ≤ a.toNat ∧ a.toNat < 0xE0) ∨
      (n = 3 ∧ 0xE0 ≤ a.toNat ∧ a.toNat < 0xF0) ∨ (n = 4 ∧ 0xF0 ≤ a.toNat ∧ a.toNat < 0xF5) := by
  simp only [utf8Width?, UInt8.lt_iff_toNat_lt, UInt8.le_iff_toNat_le, Bool.and_eq_true,
    decide_eq_true_eq, UInt8.reduceToNat]
  repeat' split
  all_goals simp only [Option.some.injEq, reduceCtorEq, false_iff]
  all_goals omega

theorem isContinuation_iff : isContinuation b = true ↔ 0x80 ≤ b.toNat ∧ b.toNat < 0xC0 := by
  simp [isContinuation, UInt8.lt_iff_toNat_lt, UInt8.le_iff_toNat_le]

theorem isSecond_iff : isSecond a b = true ↔
    (0x80 ≤ b.toNat ∧ b.toNat < 0xC0) ∧ (a.toNat = 0xE0 → 0xA0 ≤ b.toNat) ∧
      (a.toNat = 0xED → b.toNat < 0xA0) ∧ (a.toNat = 0xF0 → 0x90 ≤ b.toNat) ∧
      (a.toNat = 0xF4 → b.toNat < 0x90) := by
  have hSame (m : UInt8) : (a == m) = true ↔ a.toNat = m.toNat := by
    rw [beq_iff_eq, UInt8.toNat_inj]
  simp only [isSecond, hSame, UInt8.reduceToNat]
  repeat' split
  all_goals simp only [isContinuation_iff, Bool.and_eq_true, decide_eq_true_eq,
    UInt8.lt_iff_toNat_lt, UInt8.le_iff_toNat_le, UInt8.reduceToNat]
  all_goals omega

/-! ## Encodings -/

/-- The bytes of a code point, as numbers. -/
inductive Encodes : Nat → List UInt8 → Prop
  | one {v : Nat} {a : UInt8} (hv : v < 0x80) (ha : a.toNat = v) : Encodes v [a]
  | two {v : Nat} {a b : UInt8} (hv : 0x80 ≤ v ∧ v < 0x800) (ha : a.toNat = v / 64 + 0xC0)
      (hb : b.toNat = v % 64 + 0x80) : Encodes v [a, b]
  | three {v : Nat} {a b c : UInt8} (hv : 0x800 ≤ v ∧ v < 0x10000)
      (ha : a.toNat = v / 4096 + 0xE0) (hb : b.toNat = v / 64 % 64 + 0x80)
      (hc : c.toNat = v % 64 + 0x80) : Encodes v [a, b, c]
  | four {v : Nat} {a b c d : UInt8} (hv : 0x10000 ≤ v ∧ v < 0x110000)
      (ha : a.toNat = v / 262144 + 0xF0) (hb : b.toNat = v / 4096 % 64 + 0x80)
      (hc : c.toNat = v / 64 % 64 + 0x80) (hd : d.toNat = v % 64 + 0x80) : Encodes v [a, b, c, d]

/-- The bytes after a first byte are those of some character as far as they go. -/
def Follows (a : UInt8) (rest : List UInt8) : Prop :=
  (∀ b ∈ rest.head?, isSecond a b = true) ∧ ∀ b ∈ rest.tail, isContinuation b = true

theorem toNat_lt_or (c : Char) : c.toNat < 0xD800 ∨ 0xDFFF < c.toNat ∧ c.toNat < 0x110000 :=
  c.valid

theorem toNat_ofNat_eq {n m : Nat} (h : n = m) (hm : m < 256) : (UInt8.ofNat n).toNat = m := by
  rw [h]
  exact UInt8.toNat_ofNat_of_lt hm

theorem encodes_utf8EncodeChar (c : Char) : Encodes c.toNat (utf8EncodeChar c) := by
  have hValid := toNat_lt_or c
  have hVal : c.val.toNat = c.toNat := rfl
  simp only [String.utf8EncodeChar, hVal]
  split
  · apply Encodes.one
    · omega
    · exact toNat_ofNat_eq rfl (by omega)
  split
  · apply Encodes.two
    · omega
    · exact toNat_ofNat_eq (by omega) (by omega)
    · exact toNat_ofNat_eq rfl (by omega)
  split
  · apply Encodes.three
    · omega
    · exact toNat_ofNat_eq (by omega) (by omega)
    · exact toNat_ofNat_eq rfl (by omega)
    · exact toNat_ofNat_eq rfl (by omega)
  · apply Encodes.four
    · omega
    · exact toNat_ofNat_eq (by omega) (by omega)
    · exact toNat_ofNat_eq rfl (by omega)
    · exact toNat_ofNat_eq rfl (by omega)
    · exact toNat_ofNat_eq rfl (by omega)

theorem Encodes.unique {v : Nat} {bs' : List UInt8} (h : Encodes v bs) (h' : Encodes v bs') :
    bs = bs' := by
  cases h <;> cases h' <;> first
    | omega
    | simp only [List.cons.injEq, ← UInt8.toNat_inj, and_true]
      omega

theorem Follows.nil (a : UInt8) : Follows a [] := by
  simp [Follows]

theorem follows_cons_iff : Follows a (b :: rest) ↔
    isSecond a b = true ∧ ∀ b' ∈ rest, isContinuation b' = true := by
  simp [Follows]

theorem Encodes.width {v : Nat} (h : Encodes v bs) (hValid : v < 0xD800 ∨ 0xDFFF < v) :
    ∃ a rest, bs = a :: rest ∧ utf8Width? a = some (rest.length + 1) ∧ Follows a rest := by
  cases h with
  | one hv ha =>
    exact ⟨_, _, rfl, utf8Width?_eq_some_iff.mpr (.inl ⟨rfl, by omega⟩), .nil _⟩
  | two hv ha hb =>
    refine ⟨_, _, rfl, utf8Width?_eq_some_iff.mpr (.inr (.inl ⟨rfl, by omega⟩)), ?_⟩
    exact follows_cons_iff.mpr ⟨isSecond_iff.mpr (by omega), by simp⟩
  | three hv ha hb hc =>
    refine ⟨_, _, rfl, utf8Width?_eq_some_iff.mpr (.inr (.inr (.inl ⟨rfl, by omega⟩))), ?_⟩
    exact follows_cons_iff.mpr ⟨isSecond_iff.mpr (by omega), by simp [isContinuation_iff]; omega⟩
  | four hv ha hb hc hd =>
    refine ⟨_, _, rfl, utf8Width?_eq_some_iff.mpr (.inr (.inr (.inr ⟨rfl, by omega⟩))), ?_⟩
    exact follows_cons_iff.mpr ⟨isSecond_iff.mpr (by omega), by simp [isContinuation_iff]; omega⟩

theorem toNat_charOfNat {v : Nat} (h : v < 0xD800 ∨ 0xDFFF < v ∧ v < 0x110000) :
    (Char.ofNat v).toNat = v := by
  rw [Char.ofNat, dif_pos h]
  rfl

theorem exists_char {v : Nat} (h : v < 0xD800 ∨ 0xDFFF < v ∧ v < 0x110000) :
    ∃ c : Char, c.toNat = v :=
  ⟨Char.ofNat v, toNat_charOfNat h⟩

theorem exists_encodes (hWidth : utf8Width? a = some (rest.length + 1)) (h : Follows a rest) :
    ∃ c : Char, Encodes c.toNat (a :: rest) := by
  obtain ⟨hSecond, hTail⟩ := h
  rcases utf8Width?_eq_some_iff.mp hWidth with
    ⟨hn, ha⟩ | ⟨hn, ha⟩ | ⟨hn, ha⟩ | ⟨hn, ha⟩
  · obtain rfl := List.eq_nil_of_length_eq_zero (Nat.succ.inj hn)
    obtain ⟨c, hc⟩ := exists_char (v := a.toNat) (by omega)
    refine ⟨c, .one ?_ ?_⟩ <;> omega
  · obtain ⟨b, rfl⟩ := List.length_eq_one_iff.mp (Nat.succ.inj hn)
    have hb := isSecond_iff.mp (hSecond b rfl)
    obtain ⟨c, hc⟩ := exists_char (v := a.toNat % 32 * 64 + b.toNat % 64) (by omega)
    refine ⟨c, .two ?_ ?_ ?_⟩ <;> omega
  · obtain ⟨b, b', rfl⟩ := List.length_eq_two.mp (Nat.succ.inj hn)
    have hb := isSecond_iff.mp (hSecond b rfl)
    have hb' := isContinuation_iff.mp (hTail b' List.mem_cons_self)
    obtain ⟨c, hc⟩ := exists_char
      (v := a.toNat % 16 * 4096 + b.toNat % 64 * 64 + b'.toNat % 64) (by omega)
    refine ⟨c, .three ?_ ?_ ?_ ?_⟩ <;> omega
  · obtain ⟨b, b', b'', rfl⟩ := List.length_eq_three.mp (Nat.succ.inj hn)
    have hb := isSecond_iff.mp (hSecond b rfl)
    have hb' := isContinuation_iff.mp (hTail b' List.mem_cons_self)
    have hb'' := isContinuation_iff.mp (hTail b'' (List.mem_cons_of_mem b' List.mem_cons_self))
    obtain ⟨c, hc⟩ := exists_char
      (v := a.toNat % 8 * 262144 + b.toNat % 64 * 4096 + b'.toNat % 64 * 64 + b''.toNat % 64)
      (by omega)
    refine ⟨c, .four ?_ ?_ ?_ ?_ ?_⟩ <;> omega

theorem Encodes.frontChar (h : Encodes c.toNat bs) (rest : List UInt8) :
    frontChar (bs ++ rest) = .ok (c, bs.length) := by
  have hValid := toNat_lt_or c
  have hChar {n : Nat} (hn : n = c.toNat) : Char.ofNat n = c := by rw [hn, Char.ofNat_toNat]
  obtain ⟨a, others, rfl, hWidth, hFirst, hOthers⟩ := h.width (by omega)
  rw [List.length_cons]
  cases h with
  | one hv ha => simp [Text.frontChar, hWidth, hChar ha]
  | @two _ b hv ha hb =>
    have hb' := hFirst b rfl
    have hRead := hChar (n := a.toNat % 32 * 64 + payloadBits b) (by rw [payloadBits]; omega)
    simp [Text.frontChar, hWidth, hb', hRead]
  | @three _ b b' hv ha hb hc =>
    have hb' := hFirst b rfl
    have hc' := hOthers b' List.mem_cons_self
    have hRead := hChar (n := a.toNat % 16 * 4096 + payloadBits b * 64 + payloadBits b')
      (by simp only [payloadBits]; omega)
    simp [Text.frontChar, hWidth, hb', hc', hRead]
  | @four _ b b' b'' hv ha hb hc hd =>
    have hb' := hFirst b rfl
    have hc' := hOthers b' List.mem_cons_self
    have hd' := hOthers b'' (List.mem_cons_of_mem b' List.mem_cons_self)
    have hRead := hChar (n := a.toNat % 8 * 262144 + payloadBits b * 4096 + payloadBits b' * 64 +
      payloadBits b'') (by simp only [payloadBits]; omega)
    simp [Text.frontChar, hWidth, hb', hc', hd', hRead]

theorem frontChar_utf8EncodeChar (c : Char) (rest : List UInt8) :
    frontChar (utf8EncodeChar c ++ rest) = .ok (c, (utf8EncodeChar c).length) :=
  (encodes_utf8EncodeChar c).frontChar rest

/-! ## Beginnings -/

theorem Follows.of_append {more : List UInt8} (h : Follows a (rest ++ more)) : Follows a rest := by
  cases rest with
  | nil => exact Follows.nil a
  | cons b rest => exact ⟨h.1, fun b' hb' => h.2 b' (List.mem_append_left more hb')⟩

theorem exists_isSecond (a : UInt8) : ∃ b, isSecond a b = true := by
  by_cases hLow : a.toNat = 0xE0
  · exact ⟨0xA0, isSecond_iff.mpr (by simp [hLow])⟩
  by_cases hHigh : a.toNat = 0xF0
  · exact ⟨0x90, isSecond_iff.mpr (by simp [hHigh])⟩
  · exact ⟨0x80, isSecond_iff.mpr (by simp [hLow, hHigh])⟩

theorem Follows.exists_append (h : Follows a rest) (count : Nat) :
    ∃ more, more.length = count ∧ Follows a (rest ++ more) := by
  induction count with
  | zero => exact ⟨[], rfl, by rwa [List.append_nil]⟩
  | succ count ih =>
    obtain ⟨more, hLength, hFirst, hTail⟩ := ih
    cases hMore : rest ++ more with
    | nil =>
      obtain ⟨b, hb⟩ := exists_isSecond a
      refine ⟨more ++ [b], by simp [hLength], ?_⟩
      rw [← List.append_assoc, hMore]
      exact ⟨by simpa using hb, by simp⟩
    | cons b others =>
      have hLast : isContinuation 0x80 = true := rfl
      refine ⟨more ++ [0x80], by simp [hLength], ?_⟩
      rw [← List.append_assoc, hMore]
      rw [hMore] at hFirst hTail
      refine ⟨hFirst, fun b' hb' => ?_⟩
      rcases List.mem_append.mp hb' with hb' | hb'
      · exact hTail b' hb'
      · exact List.mem_singleton.mp hb' ▸ hLast

theorem begins_cons_iff :
    Begins (a :: rest) ↔ ∃ n, utf8Width? a = some n ∧ rest.length < n ∧ Follows a rest := by
  constructor
  · rintro ⟨c, more, hEncoding⟩
    have hValid := toNat_lt_or c
    obtain ⟨a', others, hOthers, hWidth, hFollows⟩ :=
      (encodes_utf8EncodeChar c).width (by omega)
    rw [← hEncoding, List.cons_append] at hOthers
    cases hOthers
    exact ⟨_, hWidth, by rw [List.length_append]; omega, hFollows.of_append⟩
  · rintro ⟨n, hWidth, hLength, hFollows⟩
    obtain ⟨more, hMore, hFollows⟩ := hFollows.exists_append (n - 1 - rest.length)
    have hWhole : utf8Width? a = some ((rest ++ more).length + 1) := by
      rw [hWidth, List.length_append, hMore]
      congr 1
      omega
    obtain ⟨c, hc⟩ := exists_encodes hWhole hFollows
    exact ⟨c, more, (encodes_utf8EncodeChar c).unique hc |>.symm⟩

theorem Begins.of_append (more : List UInt8) (h : Begins (bs ++ more)) : Begins bs := by
  obtain ⟨c, hc⟩ := h
  exact ⟨c, (List.prefix_append bs more).trans hc⟩

/-- The front of some bytes is ill-formed, and as long as the reader says. -/
def IsRefused (bs : List UInt8) : Prop :=
  ∃ part rest, bs = part ++ rest ∧ IsIllFormed part rest ∧ frontChar bs = .error part.length

theorem isRefused_of_begins (part : List UInt8) {rest : List UInt8}
    (hBegins : part = [] ∨ Begins (a :: part))
    (hLongest : ∀ b ∈ rest.head?, ¬ Begins (a :: (part ++ [b])))
    (hFront : frontChar (a :: (part ++ rest)) = .error (part.length + 1)) :
    IsRefused (a :: (part ++ rest)) := by
  refine ⟨a :: part, rest, rfl, ?_, hFront⟩
  constructor
  · exact List.cons_ne_nil a part
  · rintro c ⟨more, hMore⟩
    have hRead := frontChar_utf8EncodeChar c more
    rw [hMore, List.cons_append, hFront] at hRead
    cases hRead
  · exact hBegins.imp_left fun hNil => by rw [hNil]; rfl
  · exact hLongest

theorem isRefused_of_follows (part : List UInt8) {rest : List UInt8}
    (hWidth : utf8Width? a = some n) (hLength : part.length + 1 < n) (hFollows : Follows a part)
    (hStop : ∀ b ∈ rest.head?, ¬ Follows a (part ++ [b]))
    (hFront : frontChar (a :: (part ++ rest)) = .error (part.length + 1)) :
    IsRefused (a :: (part ++ rest)) := by
  refine isRefused_of_begins part (.inr ?_) (fun b hb hBegins => ?_) hFront
  · exact begins_cons_iff.mpr ⟨n, hWidth, by omega, hFollows⟩
  · obtain ⟨_, _, _, hNext⟩ := begins_cons_iff.mp hBegins
    exact hStop b hb hNext

theorem exists_follows_or_isRefused (a : UInt8) (rest : List UInt8) :
    (∃ part more, rest = part ++ more ∧ utf8Width? a = some (part.length + 1) ∧ Follows a part) ∨
      IsRefused (a :: rest) := by
  cases hWidth : utf8Width? a with
  | none =>
    right
    apply isRefused_of_begins []
    · exact .inl rfl
    · simp [begins_cons_iff, hWidth]
    · simp [frontChar, hWidth]
  | some n =>
    -- one byte after the other is missing, cannot follow, or is the last one
    obtain rfl | hn : n = 1 ∨ n = 2 ∨ n = 3 ∨ n = 4 := by
      have := utf8Width?_eq_some_iff.mp hWidth
      omega
    · exact .inl ⟨[], rest, rfl, rfl, .nil a⟩
    rcases rest with _ | ⟨b, rest⟩
    · right
      apply isRefused_of_follows [] hWidth _ (.nil a)
      · simp
      · rcases hn with rfl | rfl | rfl <;> simp [frontChar, hWidth]
      · rw [List.length_nil]
        omega
    cases hb : isSecond a b with
    | false =>
      right
      apply isRefused_of_follows [] hWidth _ (.nil a)
      · simp [follows_cons_iff, hb]
      · rcases hn with rfl | rfl | rfl <;> rcases rest with _ | ⟨b', _ | ⟨b'', rest⟩⟩ <;>
          simp [frontChar, hWidth, hb]
      · rw [List.length_nil]
        omega
    | true =>
      have hFollows : Follows a [b] := by simp [follows_cons_iff, hb]
      obtain rfl | hn := hn
      · exact .inl ⟨[b], rest, rfl, rfl, hFollows⟩
      rcases rest with _ | ⟨b', rest⟩
      · right
        apply isRefused_of_follows [b] hWidth _ hFollows
        · simp
        · rcases hn with rfl | rfl <;> simp [frontChar, hWidth, hb]
        · rw [List.length_singleton]
          omega
      cases hb' : isContinuation b' with
      | false =>
        right
        apply isRefused_of_follows [b] hWidth _ hFollows
        · simp [follows_cons_iff, hb']
        · rcases hn with rfl | rfl <;> cases rest <;> simp [frontChar, hWidth, hb, hb']
        · rw [List.length_singleton]
          omega
      | true =>
        have hFollows : Follows a [b, b'] := by simp [follows_cons_iff, hb, hb']
        obtain rfl | rfl := hn
        · exact .inl ⟨[b, b'], rest, rfl, rfl, hFollows⟩
        rcases rest with _ | ⟨b'', rest⟩
        · right
          apply isRefused_of_follows [b, b'] hWidth (by simp) hFollows
          · simp
          · simp [frontChar, hWidth, hb, hb']
        cases hb'' : isContinuation b'' with
        | false =>
          right
          apply isRefused_of_follows [b, b'] hWidth (by simp) hFollows
          · simp [follows_cons_iff, hb'']
          · simp [frontChar, hWidth, hb, hb', hb'']
        | true =>
          exact .inl ⟨[b, b', b''], rest, rfl, rfl, by simp [follows_cons_iff, hb, hb', hb'']⟩

theorem exists_encoding_or_isRefused (hNonempty : bs ≠ []) :
    (∃ c rest, bs = utf8EncodeChar c ++ rest) ∨ IsRefused bs := by
  obtain ⟨a, rest, rfl⟩ := List.exists_cons_of_ne_nil hNonempty
  obtain ⟨part, more, rfl, hWidth, hFollows⟩ | hRefused := exists_follows_or_isRefused a rest
  · obtain ⟨c, hc⟩ := exists_encodes hWidth hFollows
    refine .inl ⟨c, more, ?_⟩
    rw [(encodes_utf8EncodeChar c).unique hc]
    rfl
  · exact .inr hRefused

/-! ## Whole texts -/

theorem IsIllFormed.length_le {part' rest' : List UInt8} (h : IsIllFormed part rest)
    (h' : IsIllFormed part' rest') (hSame : part ++ rest = part' ++ rest') :
    part'.length ≤ part.length := by
  by_contra hLonger
  -- the longer part begins a character, so the shorter one could have gone on
  obtain ⟨more, rfl, rfl⟩ : ∃ more, part' = part ++ more ∧ rest = more ++ rest' := by
    rcases List.append_eq_append_iff.mp hSame with ⟨more, hPart', hRest⟩ | ⟨more, hPart, _⟩
    · exact ⟨more, hPart', hRest⟩
    · exact absurd (congrArg List.length hPart) (by rw [List.length_append]; omega)
  rcases more with _ | ⟨b, more⟩
  · simp at hLonger
  have hPart := List.length_pos_iff.mpr h.ne_nil
  have hBegins := h'.begins.resolve_left (by rw [List.length_append, List.length_cons]; omega)
  refine h.longest b rfl (Begins.of_append more ?_)
  rwa [List.append_assoc]

theorem IsIllFormed.frontChar (h : IsIllFormed part rest) :
    frontChar (part ++ rest) = .error part.length := by
  have hNonempty : part ++ rest ≠ [] := by simp [h.ne_nil]
  obtain ⟨c, more, hEncoding⟩ | ⟨part', rest', hSame, h', hFront⟩ :=
    exists_encoding_or_isRefused hNonempty
  · exact absurd ⟨more, hEncoding.symm⟩ (h.noChar c)
  · rw [hFront, Nat.le_antisymm (h.length_le h' hSame) (h'.length_le h hSame.symm)]

theorem decodeFrom_length (part rest : List UInt8) :
    decodeFrom part.length (part ++ rest) = decodeLossy rest := by
  induction part with
  | nil => rfl
  | cons b part ih => exact ih

theorem decodeLossy_encode (c : Char) (rest : List UInt8) :
    decodeLossy (utf8EncodeChar c ++ rest) = c :: decodeLossy rest := by
  have hFront := frontChar_utf8EncodeChar c rest
  obtain ⟨a, others, hBytes⟩ := List.exists_cons_of_ne_nil (String.utf8EncodeChar_ne_nil (c := c))
  rw [hBytes] at hFront ⊢
  rw [List.cons_append] at hFront ⊢
  rw [decodeLossy, decodeFrom, hFront]
  exact congrArg (c :: ·) (decodeFrom_length others rest)

theorem decodeLossy_illFormed (h : IsIllFormed part rest) :
    decodeLossy (part ++ rest) = replacement :: decodeLossy rest := by
  have hFront := h.frontChar
  obtain ⟨a, others, rfl⟩ := List.exists_cons_of_ne_nil h.ne_nil
  rw [List.cons_append] at hFront ⊢
  rw [decodeLossy, decodeFrom, hFront]
  exact congrArg (replacement :: ·) (decodeFrom_length others rest)

theorem decodes_decodeLossy (bs : List UInt8) : Decodes bs (decodeLossy bs) := by
  induction hLength : bs.length using Nat.strongRecOn generalizing bs with
  | ind length ih =>
    subst hLength
    by_cases hNonempty : bs = []
    · rw [hNonempty]
      exact .nil
    obtain ⟨c, rest, rfl⟩ | ⟨part, rest, rfl, hPart, _⟩ := exists_encoding_or_isRefused hNonempty
    · have hBytes := List.length_pos_iff.mpr (String.utf8EncodeChar_ne_nil (c := c))
      rw [decodeLossy_encode]
      exact .char c (ih rest.length (by rw [List.length_append]; omega) rest rfl)
    · have hBytes := List.length_pos_iff.mpr hPart.ne_nil
      rw [decodeLossy_illFormed hPart]
      exact .illFormed hPart (ih rest.length (by rw [List.length_append]; omega) rest rfl)

theorem decodes_iff : Decodes bs t ↔ decodeLossy bs = t := by
  constructor
  · intro h
    induction h with
    | nil => rfl
    | char c h ih => rw [decodeLossy_encode, ih]
    | illFormed hPart h ih => rw [decodeLossy_illFormed hPart, ih]
  · rintro rfl
    exact decodes_decodeLossy bs

theorem utf8_cons (c : Char) (t : Text) : utf8 (c :: t) = utf8EncodeChar c ++ utf8 t :=
  List.flatMap_cons

theorem decodeLossy_utf8 (t : Text) : decodeLossy t.utf8 = t := by
  induction t with
  | nil => rfl
  | cons c t ih => rw [utf8_cons, decodeLossy_encode, ih]

theorem utf8EncodeChar_of_ascii (h : a.toNat < 0x80) :
    utf8EncodeChar (Char.ofNat a.toNat) = [a] :=
  (encodes_utf8EncodeChar _).unique (.one (by rw [toNat_charOfNat] <;> omega)
    (toNat_charOfNat (by omega)).symm)

theorem utf8_injective : Function.Injective utf8 :=
  Function.LeftInverse.injective decodeLossy_utf8

end ServiceProbe.Text
