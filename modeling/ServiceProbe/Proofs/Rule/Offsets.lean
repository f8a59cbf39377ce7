import Mathlib.Data.List.DropRight
import ServiceProbe.Proofs.Rule.Arranged
import ServiceProbe.Proofs.Template.Offsets

/-! # Version information read by offsets

The reader of version information passes over a word, or takes a field with its text, and goes on in
what is left. A letter that names a field is one byte long, a delimiter may be longer. Whatever the
text, no offset falls outside of it or inside a character, every round leaves less of the text, and
the fields are those that are read character by character. -/

namespace ServiceProbe.VersionInfo
set_option autoImplicit false

open Text (Finding BadSlice found sliceTo sliceFrom)

/-- The field that a text begins with, and the text from the opening delimiter on. -/
def tagAt (t : Text) : Finding (Field × Text) :=
  match Text.after? "cpe:".toList t with
  | some after => found (some (.cpe, after))
  | none =>
    match t with
    | tag :: delimiter :: _ =>
      if isDelimiter delimiter then do
        let field ← found (Field.ofTag? tag)
        let after ← sliceFrom t 1
        pure (field, after)
      else found none
    | _ => found none

/-- The fields so far, and what is left of the text. -/
structure Scan where
  fields : VersionInfo
  rest : Text

variable {t body inside after : Text} {field : Field}

theorem tagAt_eq (t : Text) : tagAt t = found (tag? t) := by
  cases hPlatform : Text.after? "cpe:".toList t with
  | some after => simp only [tagAt, tag?, hPlatform]
  | none =>
    rcases t with _ | ⟨tag, _ | ⟨delimiter, rest⟩⟩
    · simp only [tagAt, tag?, hPlatform]
    · simp only [tagAt, tag?, hPlatform]
    · simp only [tagAt, tag?, hPlatform]
      split
      · cases hTag : Field.ofTag? tag with
        | none => rfl
        | some field =>
          have hWidth : tag.utf8Size = 1 := by
            unfold Field.ofTag? at hTag
            split at hTag
            all_goals first | rfl | cases hTag
          have hAfter := Text.sliceFrom_cons tag (delimiter :: rest)
          rw [hWidth] at hAfter
          rw [Text.found_some_bind, Text.slice_bind hAfter]
          rfl
      · rfl

/-! ## What is left -/

theorem append_of_tag? (h : tag? t = some (field, body)) : t = field.tag ++ body := by
  unfold tag? at h
  split at h
  · rename_i after hAfter
    cases h
    exact Text.after?_eq_some_iff.mp hAfter
  · split at h
    · split at h
      · obtain ⟨found, hTag, hEq⟩ := Option.map_eq_some_iff.mp h
        cases hEq
        rw [tag_of_ofTag? hTag]
        rfl
      · cases h
    · cases h

theorem tag?_suffix (h : tag? t = some (field, body)) : body <:+ t :=
  ⟨field.tag, (append_of_tag? h).symm⟩

theorem delimited?_suffix (h : Text.delimited? t = some (inside, after)) : after <:+ t := by
  obtain ⟨d, rfl, _⟩ := Text.delimited?_eq_some_iff.mp h
  exact ⟨d :: (inside ++ [d]), by simp⟩

theorem dropMark_suffix (field : Field) (t : Text) : dropMark field t <:+ t := by
  unfold dropMark
  split
  · exact List.suffix_cons _ _
  · exact List.suffix_refl _

theorem trimStart_suffix (t : Text) : t.trimStart <:+ t := List.dropWhile_suffix _

/-! ## Reading on -/

theorem parse_trimStart (t : Text) : parse t.trimStart = parse t := by
  rw [parse, parse, Text.trimStart, Text.trimStart, List.dropWhile_idempotent]

/-- A text that begins with a field begins with no blank. -/
theorem trimStart_of_tag? (h : tag? t = some (field, body)) : t.trimStart = t := by
  rw [append_of_tag? h]
  exact (Field.isWord_tag field).isTight.trimStart_append body

theorem parse_of_field (hTag : tag? t = some (field, body))
    (hBody : Text.delimited? body = some (inside, after)) :
    parse t = (field, Template.parse inside) :: parse (dropMark field after) := by
  rw [parse, trimStart_of_tag? hTag, parseFrom_of_tag? hTag hBody, parse]

theorem parse_of_unclosed (hTag : tag? t = some (field, body)) (hBody : Text.delimited? body = none) :
    parse t = [] := by
  rw [parse, trimStart_of_tag? hTag]
  cases t with
  | nil => rw [parseFrom]
  | cons c rest => simp only [parseFrom_cons, hTag, hBody]

theorem word_cons {c : Char} (hc : ¬Text.isBlank c = true) (rest : Text) :
    (Text.word (c :: rest)).2 = (Text.word rest).2 := by
  simp [Text.word, hc]

/-- A word that is no field is passed over. -/
theorem parse_of_word (h : tag? t = none) : parse t = parse (Text.word t).2 := by
  cases t with
  | nil => rfl
  | cons c rest =>
    by_cases hc : Text.isBlank c = true
    · simp [Text.word, hc]
    · have hStart : Text.trimStart (c :: rest) = c :: rest := List.dropWhile_cons_of_neg hc
      rw [parse, hStart, word_cons hc]
      simp only [parseFrom_cons, h]
      rfl

/-- The first word or the blanks after it are not empty. -/
theorem length_trimStart_word (h : t ≠ []) : (Text.word t).2.trimStart.length < t.length := by
  obtain ⟨c, rest, rfl⟩ := List.exists_cons_of_ne_nil h
  by_cases hc : Text.isBlank c = true
  · have hTrim : (Text.word (c :: rest)).2.trimStart = Text.trimStart rest := by
      simp [Text.word, Text.trimStart, hc]
    rw [hTrim]
    exact Nat.lt_succ_of_le (trimStart_suffix rest).length_le
  · have hRest : (Text.word rest).2 <:+ rest := List.dropWhile_suffix _
    rw [word_cons hc]
    exact Nat.lt_succ_of_le ((trimStart_suffix _).trans hRest).length_le

/-! ## Rounds -/

namespace Scan

def advance (scan : Scan) : Except BadSlice (Option Scan) :=
  if scan.rest.isEmpty then .ok none
  else do
    match ← (tagAt scan.rest).run with
    | none =>
      let stop := (Text.find? Text.isBlank scan.rest).getD scan.rest.utf8.length
      -- the word itself is only logged
      let _word ← sliceTo scan.rest stop
      let rest ← sliceFrom scan.rest stop
      pure (some ⟨scan.fields, rest.trimStart⟩)
    | some (field, body) =>
      match ← (Text.delimitedAt body).run with
      -- a field that is not closed ends the list
      | none => pure none
      | some (inside, after) =>
        let template ← Template.parseAt inside
        pure (some ⟨scan.fields ++ [(field, template)], (dropMark field after).trimStart⟩)

/-- The number of bytes that are left. -/
def bytes (scan : Scan) : Nat := scan.rest.utf8.length

/-- The fields that the text has when it is read on from here. -/
def result (scan : Scan) : VersionInfo := scan.fields ++ parse scan.rest

theorem advance_word (fields : VersionInfo) (hRest : t ≠ []) (hTag : tag? t = none) :
    advance ⟨fields, t⟩ = .ok (some ⟨fields, (Text.word t).2.trimStart⟩) := by
  have hStop : (Text.find? Text.isBlank t).getD t.utf8.length = (Text.word t).1.utf8.length :=
    Text.getD_find? Text.isBlank t
  have hWord := Text.sliceTo_append (Text.word t).1 (Text.word t).2
  have hAfter := Text.sliceFrom_append (Text.word t).1 (Text.word t).2
  rw [Text.word_append] at hWord hAfter
  rw [advance, if_neg (by simpa using hRest)]
  simp only [tagAt_eq, hTag, Text.run_found, Text.ok_bind, hStop, hWord, hAfter]
  rfl

theorem advance_field (fields : VersionInfo) (hTag : tag? t = some (field, body)) :
    advance ⟨fields, t⟩ = .ok ((Text.delimited? body).map fun (inside, after) =>
      ⟨fields ++ [(field, Template.parse inside)], (dropMark field after).trimStart⟩) := by
  have hRest : ¬t.isEmpty = true := by
    cases t with
    | nil => cases hTag
    | cons c rest => simp
  rw [advance, if_neg hRest]
  simp only [tagAt_eq, hTag, Text.run_found, Text.ok_bind, Text.delimitedAt_eq]
  cases hBody : Text.delimited? body with
  | none => rfl
  | some parts =>
    simp only [Template.parseAt_eq, Text.ok_bind]
    rfl

theorem proceeds : Text.Proceeds bytes result advance := by
  rintro ⟨fields, t⟩
  by_cases hRest : t = []
  · subst hRest
    exact ⟨none, rfl, by simp⟩
  cases hTag : tag? t with
  | none =>
    refine ⟨_, advance_word fields hRest hTag, ?_⟩
    rintro next ⟨⟩
    have hSuffix : (Text.word t).2.trimStart <:+ t :=
      (trimStart_suffix _).trans (List.dropWhile_suffix _)
    refine ⟨Text.length_utf8_lt hSuffix (length_trimStart_word hRest), ?_⟩
    rw [result, result, parse_trimStart, parse_of_word hTag]
  | some found =>
    obtain ⟨field, body⟩ := found
    refine ⟨_, advance_field fields hTag, ?_⟩
    intro next hNext
    obtain ⟨⟨inside, after⟩, hBody, rfl⟩ := Option.map_eq_some_iff.mp hNext
    have hLeft : (dropMark field after).trimStart <:+ after :=
      (trimStart_suffix _).trans (dropMark_suffix field after)
    have hSuffix := hLeft.trans ((delimited?_suffix hBody).trans (tag?_suffix hTag))
    have hShorter : (dropMark field after).trimStart.length < t.length :=
      Nat.lt_of_le_of_lt hLeft.length_le
        (Nat.lt_of_lt_of_le (length_delimited? hBody) (tag?_suffix hTag).length_le)
    refine ⟨Text.length_utf8_lt hSuffix hShorter, ?_⟩
    rw [result, result, parse_trimStart, parse_of_field hTag hBody]
    simp

/-- The reader ends where nothing is left or a field is not closed. -/
theorem parse_of_advance {scan : Scan} (h : scan.advance = .ok none) : parse scan.rest = [] := by
  obtain ⟨fields, t⟩ := scan
  by_cases hRest : t = []
  · subst hRest
    rw [parse, Text.trimStart, List.dropWhile_nil, parseFrom]
  cases hTag : tag? t with
  | none => cases (advance_word fields hRest hTag).symm.trans h
  | some found =>
    obtain ⟨field, body⟩ := found
    cases hBody : Text.delimited? body with
    | none => exact parse_of_unclosed hTag hBody
    | some parts =>
      rw [advance_field fields hTag, hBody] at h
      cases h

end Scan

/-- Reads the fields as `parse` does, by offsets. -/
def parseAt (t : Text) : Except BadSlice VersionInfo := do
  let last ← Text.untilDone Scan.bytes Scan.advance Scan.proceeds.shrinks ⟨[], t.trimStart⟩
  pure last.fields

theorem parseAt_eq (t : Text) : parseAt t = .ok (parse t) := by
  obtain ⟨last, hLast, hDone, hResult⟩ := Scan.proceeds.exists_untilDone ⟨[], t.trimStart⟩
  have hEnd : last.result = last.fields := by
    rw [Scan.result, Scan.parse_of_advance hDone, List.append_nil]
  have hStart : Scan.result ⟨[], t.trimStart⟩ = parse t := parse_trimStart t
  rw [parseAt, hLast, Text.ok_bind, ← hEnd, hResult, hStart]
  rfl

/-- A placeholder takes at least one byte and no part of a character. No slice fails, whether in
cutting off a delimited text or in a round of either reader, whatever state the round begins in. Every
round that goes on leaves fewer bytes, and what is read is what is read character by character. -/
theorem offsets_stay_within_text (t : Text) :
    ((Template.placeholder? t = none ∧ (Template.placeholderAt t).run = .ok none) ∨
      ∃ s taken rest, Template.placeholder? t = some (s, rest) ∧
        (Template.placeholderAt t).run = .ok (some (s, taken)) ∧ 1 ≤ taken ∧ taken ≤ t.utf8.length ∧
        Text.isBoundary t.utf8 taken = true ∧ sliceFrom t taken = .ok rest) ∧
      (Text.delimitedAt t).run = .ok (Text.delimited? t) ∧
      Text.Proceeds Template.Scan.bytes Template.Scan.result Template.Scan.advance ∧
      Text.Proceeds Scan.bytes Scan.result Scan.advance ∧
      Template.parseAt t = .ok (Template.parse t) ∧ parseAt t = .ok (parse t) := by
  refine ⟨?_, congrArg OptionT.run (Text.delimitedAt_eq t), Template.Scan.proceeds, Scan.proceeds,
    Template.parseAt_eq t, parseAt_eq t⟩
  obtain ⟨hRead, hAttempt⟩ | ⟨s, passed, rest, rfl, hPassed, hRead, hAttempt⟩ :=
    Template.placeholderAt_cases t
  · exact .inl ⟨hRead, by rw [hAttempt, Text.run_found]⟩
  · have hTaken : 1 ≤ passed.utf8.length :=
      Nat.le_trans (List.length_pos_of_ne_nil hPassed) (Text.length_le_length_utf8 passed)
    have hWithin : passed.utf8.length ≤ (Text.utf8 (passed ++ rest)).length := by
      rw [Text.length_utf8_append]
      exact Nat.le_add_right _ _
    exact .inr ⟨s, passed.utf8.length, rest, hRead, by rw [hAttempt, Text.run_found], hTaken, hWithin,
      Text.isBoundary_append passed rest, Text.sliceFrom_append passed rest⟩

end ServiceProbe.VersionInfo
