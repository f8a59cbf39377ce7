import ServiceProbe.Proofs.Rule.Printed
import ServiceProbe.Proofs.Text.Accepted

/-! # Arranged version information

Fields are found again between words that are none, whatever blanks part them and whatever the texts
of the fields hold, as long as each delimiter does not occur in its own text. A field that is not
closed ends the list, and takes nothing from the fields before it. -/

namespace ServiceProbe.VersionInfo
set_option autoImplicit false

open Text (IsWord IsTight isBlank)

/-- A word that begins like no field. -/
structure IsForeign (w : Text) : Prop where
  isWord : IsWord w
  not_platform : ¬ "cpe:".toList <+: w
  not_field : ∀ (field : Field) d rest, isDelimiter d = true → w ≠ field.tag ++ d :: rest

/-- A field with its text, or a word that says nothing. -/
inductive IsPiece : Option (Field × Text) → Text → Prop
  | field {field : Field} {d : Char} {inside mark : Text} (hDelimiter : isDelimiter d = true)
    (hFree : d ∉ inside) (hMark : field.IsMark mark) :
    IsPiece (some (field, inside)) (field.tag ++ (d :: inside ++ d :: mark))
  | word {w : Text} (h : IsForeign w) : IsPiece none w

/-- Pieces in a row, with blanks between them, and blanks or nothing on both sides. -/
inductive Arranged : List (Option (Field × Text)) → Text → Prop
  | blank {t : Text} (h : ∀ c ∈ t, isBlank c = true) : Arranged [] t
  | cons {said : Option (Field × Text)} {more : List (Option (Field × Text))} {gap piece rest : Text}
    (hGap : ∀ c ∈ gap, isBlank c = true) (hPiece : IsPiece said piece)
    (hApart : ∀ c ∈ rest.head?, isBlank c = true) (hRest : Arranged more rest) :
    Arranged (said :: more) (gap ++ (piece ++ rest))

/-- A field that is opened and not closed. -/
def IsUnclosed (t : Text) : Prop :=
  ∃ (field : Field) (d : Char) (inside : Text), isDelimiter d = true ∧ d ∉ inside ∧
    t = field.tag ++ d :: inside

def fieldsOf (said : List (Option (Field × Text))) : VersionInfo :=
  (said.filterMap id).map fun (field, inside) => (field, Template.parse inside)

variable {said : Option (Field × Text)} {more : List (Option (Field × Text))} {w piece rest t u : Text}
  {d : Char}

/-! ## Pieces -/

theorem isBlank_of_isDelimiter (h : isDelimiter d = true) : isBlank d = false := by
  simp only [isDelimiter, Bool.and_eq_true, Bool.not_eq_true'] at h
  exact h.2

theorem IsPiece.isTight (h : IsPiece said piece) : IsTight piece := by
  cases h with
  | @field field d inside mark hDelimiter _ hMark =>
    have hEnd : IsWord (d :: mark) := hMark.isWord (isBlank_of_isDelimiter hDelimiter)
    exact (Field.isWord_tag field).isTight.between hEnd.isTight (d :: inside)
  | word h => exact h.isWord.isTight

theorem tag_of_ofTag? {c : Char} {field : Field} (h : Field.ofTag? c = some field) :
    field.tag = [c] := by
  unfold Field.ofTag? at h
  split at h <;> cases h <;> rfl

theorem IsForeign.after?_append (h : IsForeign w) (hRest : ∀ c ∈ rest.head?, isBlank c = true) :
    Text.after? "cpe:".toList (w ++ rest) = none := by
  refine Option.eq_none_iff_forall_ne_some.mpr fun tail hAfter => ?_
  obtain ⟨beyond, hPrefix, hBeyond⟩ | ⟨beyond, hWord, _⟩ :=
    List.append_eq_append_iff.mp (Text.after?_eq_some_iff.mp hAfter)
  -- a prefix that goes on beyond the word would hold a blank
  · cases beyond with
    | nil => exact h.not_platform (by simp [hPrefix])
    | cons c beyond =>
      have hBlank := hRest c (by simp [hBeyond])
      have hIn : c ∈ Field.cpe.tag := by
        show c ∈ "cpe:".toList
        simp [hPrefix]
      exact absurd hBlank (by simp [(Field.isWord_tag .cpe).solid c hIn])
  · exact h.not_platform ⟨beyond, hWord.symm⟩

theorem IsForeign.tag?_append (h : IsForeign w) (hRest : ∀ c ∈ rest.head?, isBlank c = true) :
    tag? (w ++ rest) = none := by
  unfold tag?
  rw [h.after?_append hRest]
  obtain ⟨c, others, rfl⟩ := List.exists_cons_of_ne_nil h.isWord.ne_nil
  cases others with
  | nil =>
    cases rest with
    | nil => rfl
    | cons d rest =>
      have hBlank : isBlank d = true := hRest d rfl
      exact if_neg (by simp [isDelimiter, hBlank])
  | cons d others =>
    by_cases hd : isDelimiter d = true
    · cases hField : Field.ofTag? c with
      | none => simp [hd, hField]
      | some field =>
        have hStart : c :: d :: others = field.tag ++ d :: others := by rw [tag_of_ofTag? hField]; rfl
        exact absurd hStart (h.not_field field d others hd)
    · exact if_neg hd

/-- A piece yields its field, if it is one, and leaves the rest as it would be read alone. -/
theorem IsPiece.parseFrom_append (h : IsPiece said piece)
    (hRest : ∀ c ∈ rest.head?, isBlank c = true) :
    parseFrom (piece ++ rest) = fieldsOf [said] ++ parse rest := by
  cases h with
  | field hDelimiter hFree hMark => exact parseFrom_of_delimited hDelimiter hFree hMark hRest
  | word h =>
    have hNone := h.tag?_append hRest
    obtain ⟨c, others, rfl⟩ := List.exists_cons_of_ne_nil h.isWord.ne_nil
    have hCut : Text.word (others ++ rest) = (others, rest) :=
      Text.word_append_of_solid (List.forall_mem_cons.mp h.isWord.solid).2 hRest
    rw [List.cons_append] at hNone ⊢
    simp only [parseFrom_cons, hNone, hCut]
    rfl

theorem IsUnclosed.parse (h : IsUnclosed u) : parse u = [] := by
  obtain ⟨field, d, inside, hDelimiter, hFree, rfl⟩ := h
  have hStart := (Field.isWord_tag field).isTight.trimStart_append (d :: inside)
  have hOpen : Text.delimited? (d :: inside) = none := Text.cutOn?_eq_none hFree
  have hTag := tag?_of_tag field hDelimiter inside
  rw [VersionInfo.parse, hStart]
  obtain ⟨c, others, hTagText⟩ := List.exists_cons_of_ne_nil (Field.isWord_tag field).ne_nil
  rw [hTagText, List.cons_append] at hTag ⊢
  simp only [parseFrom_cons, hTag, hOpen]

/-! ## Rows of pieces -/

theorem fieldsOf_cons (said : Option (Field × Text)) (more : List (Option (Field × Text))) :
    fieldsOf (said :: more) = fieldsOf [said] ++ fieldsOf more := by
  cases said <;> rfl

theorem Arranged.parse_append {said : List (Option (Field × Text))} (h : Arranged said t)
    (hEnd : u = [] ∨ ∀ c ∈ t.getLast?, isBlank c = true) :
    parse (t ++ u) = fieldsOf said ++ parse u := by
  induction h with
  | blank h => exact congrArg parseFrom (Text.trimStart_append_of_blank h u)
  | @cons said more gap piece rest hGap hPiece hApart hRest ih =>
    have hTight := hPiece.isTight
    have hBetween : ∀ c ∈ (rest ++ u).head?, isBlank c = true := by
      cases rest with
      | nil =>
        rcases hEnd with rfl | hEnd
        · simp
        · obtain ⟨front, c, rfl, hc⟩ := hTight.last
          exact absurd (hEnd c (by simp)) (by simp [hc])
      | cons c rest => exact hApart
    have hEndRest : u = [] ∨ ∀ c ∈ rest.getLast?, isBlank c = true := by
      refine hEnd.imp_right fun hEnd c hc => hEnd c ?_
      rw [List.getLast?_append, List.getLast?_append, hc]
      rfl
    have hStart : (gap ++ (piece ++ rest) ++ u).trimStart = piece ++ (rest ++ u) := by
      rw [List.append_assoc, Text.trimStart_append_of_blank hGap, List.append_assoc,
        hTight.trimStart_append]
    calc parse (gap ++ (piece ++ rest) ++ u)
        = parseFrom (piece ++ (rest ++ u)) := congrArg parseFrom hStart
      _ = fieldsOf [said] ++ parse (rest ++ u) := hPiece.parseFrom_append hBetween
      _ = fieldsOf [said] ++ (fieldsOf more ++ parse u) := by rw [ih hEndRest]
      _ = fieldsOf (said :: more) ++ parse u := by
        rw [fieldsOf_cons said more, List.append_assoc]

/-- The fields of a row are read in their order and nothing else is, and a field that is opened
behind them and not closed changes nothing. -/
theorem parse_of_arranged {said : List (Option (Field × Text))} (h : Arranged said t) :
    parse t = fieldsOf said ∧
      ∀ u, IsUnclosed u → (∀ c ∈ t.getLast?, isBlank c = true) → parse (t ++ u) = fieldsOf said := by
  constructor
  · have hAlone := h.parse_append (.inl (rfl : ([] : Text) = []))
    have hNothing : parse [] = [] := by simp [parse, Text.trimStart, parseFrom]
    rwa [List.append_nil, hNothing, List.append_nil] at hAlone
  · intro u hOpen hEnd
    rw [h.parse_append (.inr hEnd), hOpen.parse, List.append_nil]

/-- A word that only looks like a field, a platform name with a mark, and a field whose text looks
like two more. -/
theorem parse_of_arranged_mixed :
    parse "pq/ cpe:%/a:x v/1%a\to|p/q/ =|\n".toList =
        [(.cpe, Template.parse "/a:x v/1".toList), (.os, Template.parse "p/q/ =".toList)] ∧
      parse ("pq/ cpe:%/a:x v/1%a\to|p/q/ =|\n".toList ++ "h/ p=q=".toList) =
        [(.cpe, Template.parse "/a:x v/1".toList), (.os, Template.parse "p/q/ =".toList)] := by
  have hForeign : IsForeign "pq/".toList := by
    refine ⟨by decide, by decide, fun field d rest hd hStart => ?_⟩
    have hNot : isDelimiter 'q' = false := by decide
    cases field <;> simp [Field.tag] at hStart
    exact absurd hd (by simp [← hStart.1, hNot])
  have hPlatform : IsPiece (some (.cpe, "/a:x v/1".toList)) "cpe:%/a:x v/1%a".toList :=
    @IsPiece.field .cpe '%' "/a:x v/1".toList ['a'] (by decide) (by decide) (.inr ⟨rfl, rfl⟩)
  have hSystem : IsPiece (some (.os, "p/q/ =".toList)) "o|p/q/ =|".toList :=
    @IsPiece.field .os '|' "p/q/ =".toList [] (by decide) (by decide) (.inl rfl)
  have hEnd : Arranged [some (.os, "p/q/ =".toList)] "\to|p/q/ =|\n".toList :=
    @Arranged.cons _ _ ['\t'] _ ['\n'] (List.forall_mem_singleton.mpr rfl) hSystem
      (by rintro _ ⟨⟩; rfl) (.blank (List.forall_mem_singleton.mpr rfl))
  have hRest : Arranged [some (.cpe, "/a:x v/1".toList), some (.os, "p/q/ =".toList)]
      " cpe:%/a:x v/1%a\to|p/q/ =|\n".toList :=
    @Arranged.cons _ _ [' '] _ _ (List.forall_mem_singleton.mpr rfl) hPlatform
      (by rintro _ ⟨⟩; rfl) hEnd
  have hRow : Arranged [none, some (.cpe, "/a:x v/1".toList), some (.os, "p/q/ =".toList)]
      "pq/ cpe:%/a:x v/1%a\to|p/q/ =|\n".toList :=
    @Arranged.cons _ _ [] _ _ (List.forall_mem_nil _) (.word hForeign) (by rintro _ ⟨⟩; rfl) hRest
  have hOpen : IsUnclosed "h/ p=q=".toList :=
    ⟨.hostname, '/', " p=q=".toList, by decide, by decide, rfl⟩
  have hRead := parse_of_arranged hRow
  exact ⟨hRead.1, hRead.2 _ hOpen (by rintro _ ⟨⟩; rfl)⟩

end ServiceProbe.VersionInfo
