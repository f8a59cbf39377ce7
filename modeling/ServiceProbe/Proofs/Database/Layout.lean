import Mathlib.Logic.Relation
import ServiceProbe.Proofs.Database.Trimmed
import ServiceProbe.Proofs.Text.Parts
import ServiceProbe.Proofs.Text.Replacement

/-! # Layout of databases

A text may be laid out in other ways without a change to what it loads to or to the error it ends
with: lines that say nothing may be put in and taken out, and so may blanks at either end of a line,
the return before a line feed among them. The marks for backquotes are replaced in the whole text
before it is cut into lines; as they hold neither a blank nor a line feed, the text may as well be cut
first. -/

namespace ServiceProbe.Database
set_option autoImplicit false

open Text (isBlank join)

/-- A line that says nothing to a database. -/
def IsIdle (line : Text) : Prop :=
  line = [] ∨ line.head? = some '#' ∨ Text.utf8Length line < 2 ∨
    ∀ word, firstWord? line = some word → word ∉ keywords

/-- Blanks that stay within a line. -/
def IsInset (t : Text) : Prop := ∀ c ∈ t, isBlank c = true ∧ c ≠ '\n'

/-- One edit of a text, which is given by what stands between its line feeds. -/
inductive Edit : Text → Text → Prop
  | insert (before after : List Text) {line : Text} (hLine : '\n' ∉ line) (hIdle : IsIdle line) :
    Edit (join '\n' (before ++ after)) (join '\n' (before ++ line :: after))
  | pad (before after : List Text) {line left right : Text} (hLine : '\n' ∉ line)
    (hLeft : IsInset left) (hRight : IsInset right) :
    Edit (join '\n' (before ++ line :: after))
      (join '\n' (before ++ (left ++ (line ++ right)) :: after))
  | carriage (before after : List Text) {line next : Text} (hLine : '\n' ∉ line) :
    Edit (join '\n' (before ++ line :: next :: after))
      (join '\n' (before ++ (line ++ ['\r']) :: next :: after))

/-- The text with the marks in it replaced. -/
def unmark (t : Text) : Text := Text.replace backquoteMark ['\x60'] t

def trimmedLines (t : Text) : List Text :=
  (((unmark t).splitOn '\n').map Text.trim).filter isKept

variable {line left right word : Text} {c : Char}

/-! ## Marks -/

theorem not_mem_backquoteMark (h : isBlank c = true) : c ∉ backquoteMark := by
  have hSolid : backquoteMark.any isBlank = false := rfl
  intro hMem
  exact List.any_eq_false.mp hSolid c hMem h

theorem backquoteMark_ne_nil : backquoteMark ≠ [] := by decide

theorem unmark_append_cons (h : isBlank c = true) (front rest : Text) :
    unmark (front ++ c :: rest) = unmark front ++ c :: unmark rest :=
  Text.replace_append_cons backquoteMark_ne_nil (not_mem_backquoteMark h) front rest

theorem unmark_blank_append (hLeft : ∀ c ∈ left, isBlank c = true) (t : Text) :
    unmark (left ++ t) = left ++ unmark t := by
  apply Text.replace_free_append backquoteMark_ne_nil
  intro c hc
  exact not_mem_backquoteMark (hLeft c hc)

theorem unmark_append_blank (hRight : ∀ c ∈ right, isBlank c = true) (t : Text) :
    unmark (t ++ right) = unmark t ++ right := by
  apply Text.replace_append_free backquoteMark_ne_nil
  intro c hc
  exact not_mem_backquoteMark (hRight c hc)

theorem not_mem_unmark (h : c ∉ line) (hc : c ≠ '\x60') : c ∉ unmark line := by
  intro hMem
  rcases Text.mem_replace backquoteMark_ne_nil hMem with hLine | hNew
  · exact h hLine
  · exact hc (List.mem_singleton.mp hNew)

theorem isWord_unmark (h : Text.IsWord word) : Text.IsWord (unmark word) := by
  constructor
  · exact Text.replace_ne_nil backquoteMark_ne_nil (by decide) h.ne_nil
  · intro c hc
    rcases Text.mem_replace backquoteMark_ne_nil hc with hWord | hNew
    · exact h.solid c hWord
    · rw [List.mem_singleton.mp hNew]
      rfl

theorem firstWord?_unmark (line : Text) : firstWord? (unmark line) = (firstWord? line).map unmark := by
  cases hWord : firstWord? line with
  | none =>
    rw [firstWord?, Option.map_eq_none_iff, Text.nextWord?_eq_none_iff] at hWord
    have hSame : unmark line = line := unmark_append_blank hWord []
    rw [hSame, firstWord?, Option.map_none, Option.map_eq_none_iff, Text.nextWord?_eq_none_iff]
    exact hWord
  | some word =>
    obtain ⟨left, rest, hLeft, rfl, hSolid, hRest⟩ := firstWord?_eq_some_iff.mp hWord
    rw [Option.map_some, firstWord?_eq_some_iff, unmark_blank_append hLeft]
    cases rest with
    | nil =>
      refine ⟨left, [], hLeft, ?_, isWord_unmark hSolid, hRest⟩
      rw [List.append_nil, List.append_nil]
    | cons c rest =>
      refine ⟨left, c :: unmark rest, hLeft, ?_, isWord_unmark hSolid, hRest⟩
      rw [unmark_append_cons (hRest c rfl)]

theorem unmark_mem_keywords_iff : unmark word ∈ keywords ↔ word ∈ keywords := by
  constructor
  · intro h
    have hFree : ∀ k ∈ keywords, '\x60' ∉ k := by decide
    have hSame : unmark word = word :=
      Text.replace_eq_self_of_not_mem backquoteMark_ne_nil List.mem_cons_self (hFree _ h)
    rwa [hSame] at h
  · intro h
    have hSame : ∀ k ∈ keywords, unmark k = k := by decide
    rwa [hSame word h]

theorem isKept_unmark (line : Text) : isKept (unmark line) = isKept line := by
  rw [isKept_eq, isKept_eq, firstWord?_unmark]
  cases firstWord? line with
  | none => rfl
  | some word =>
    rw [Bool.eq_iff_iff]
    simp only [Option.map_some, Option.any_some, List.contains_iff_mem]
    exact unmark_mem_keywords_iff

/-! ## Lines -/

theorem trim_dropReturn (line : Text) : (Text.dropReturn line).trim = line.trim := by
  unfold Text.dropReturn
  split
  · rename_i hLast
    have hLine : line = line.dropLast ++ ['\r'] :=
      (List.dropLast_append_getLast? '\r' hLast).symm
    have hAround : Text.IsSurrounded line.dropLast line :=
      ⟨[], ['\r'], by simp, List.forall_mem_singleton.mpr rfl, hLine⟩
    exact hAround.trim_eq.symm
  · rfl

theorem map_trim_keptLines (t : Text) : (keptLines t).map Text.trim = trimmedLines t := by
  obtain ⟨parts, last, hParts⟩ : ∃ parts last, (unmark t).splitOn '\n' = parts ++ [last] :=
    ⟨_, _, (List.dropLast_concat_getLast (List.splitOn_ne_nil '\n' (unmark t))).symm⟩
  have hLines : Text.lines (unmark t) =
      parts.map Text.dropReturn ++ if last.isEmpty then [] else [last] := by
    rw [Text.lines, hParts, List.dropLast_concat, List.getLast?_concat, Option.getD_some]
  have hFilter (lines : List Text) :
      (lines.filter isKept).map Text.trim = (lines.map Text.trim).filter isKept := by
    rw [List.filter_map]
    simp only [Function.comp_def, isKept_trim]
  change ((Text.lines (unmark t)).filter isKept).map Text.trim = trimmedLines t
  rw [hLines, hFilter, trimmedLines, hParts, List.map_append, List.map_append, List.map_map]
  simp only [Function.comp_def, trim_dropReturn]
  rw [List.filter_append, List.filter_append]
  -- only the last part can be missing among the lines, and then it is empty
  cases last with
  | nil => rfl
  | cons c last => rfl

theorem trimmedLines_append (t u : Text) :
    trimmedLines (t ++ '\n' :: u) = trimmedLines t ++ trimmedLines u := by
  rw [trimmedLines, unmark_append_cons (by decide), List.splitOn_append_cons_self, List.map_append,
    List.filter_append, trimmedLines, trimmedLines]

theorem trimmedLines_join (lines : List Text) :
    trimmedLines (join '\n' lines) = lines.flatMap trimmedLines := by
  induction lines with
  | nil => rfl
  | cons line lines ih =>
    cases lines with
    | nil => exact (List.flatMap_singleton ..).symm
    | cons next lines =>
      have hJoin : join '\n' (line :: next :: lines) = line ++ '\n' :: join '\n' (next :: lines) := rfl
      rw [hJoin, trimmedLines_append, ih, ← List.flatMap_cons]

theorem trimmedLines_of_line (h : '\n' ∉ line) :
    trimmedLines line = [(unmark line).trim].filter isKept := by
  rw [trimmedLines, List.splitOn_eq_singleton (not_mem_unmark h (by decide)), List.map_singleton]

theorem isKept_of_idle (h : IsIdle line) : isKept line = false := by
  rcases h with rfl | hComment | hShort | hWord
  · rfl
  · simp [isKept, hComment]
  · simp [isKept, Nat.not_le.mpr hShort]
  · rw [isKept_eq]
    cases hFirst : firstWord? line with
    | none => rfl
    | some word => simpa using hWord word hFirst

theorem trimmedLines_of_idle (h : '\n' ∉ line) (hIdle : IsIdle line) : trimmedLines line = [] := by
  rw [trimmedLines_of_line h, List.filter_singleton, isKept_trim, isKept_unmark, isKept_of_idle hIdle]
  rfl

theorem trimmedLines_surround (h : '\n' ∉ line) (hLeft : IsInset left) (hRight : IsInset right) :
    trimmedLines (left ++ (line ++ right)) = trimmedLines line := by
  have hFree : '\n' ∉ left ++ (line ++ right) := by
    rw [List.mem_append, List.mem_append]
    rintro (hIn | hIn | hIn)
    · exact (hLeft _ hIn).2 rfl
    · exact h hIn
    · exact (hRight _ hIn).2 rfl
  have hLeft : ∀ c ∈ left, isBlank c = true := fun c hc => (hLeft c hc).1
  have hRight : ∀ c ∈ right, isBlank c = true := fun c hc => (hRight c hc).1
  have hAround : Text.IsSurrounded (unmark line) (unmark (left ++ (line ++ right))) := by
    refine ⟨left, right, hLeft, hRight, ?_⟩
    rw [unmark_blank_append hLeft, unmark_append_blank hRight]
  rw [trimmedLines_of_line h, trimmedLines_of_line hFree, hAround.trim_eq]

theorem isInset_nil : IsInset [] := by
  intro c hc
  cases hc

theorem isInset_return : IsInset ['\r'] := List.forall_mem_singleton.mpr ⟨rfl, by decide⟩

theorem trimmedLines_of_edit {t u : Text} (h : Edit t u) : trimmedLines t = trimmedLines u := by
  cases h with
  | insert before after hLine hIdle =>
    rw [trimmedLines_join, trimmedLines_join, List.flatMap_append, List.flatMap_append,
      List.flatMap_cons, trimmedLines_of_idle hLine hIdle, List.nil_append]
  | pad before after hLine hLeft hRight =>
    rw [trimmedLines_join, trimmedLines_join, List.flatMap_append, List.flatMap_append,
      List.flatMap_cons, List.flatMap_cons, trimmedLines_surround hLine hLeft hRight]
  | carriage before after hLine =>
    rw [trimmedLines_join, trimmedLines_join, List.flatMap_append, List.flatMap_append,
      List.flatMap_cons, List.flatMap_cons, ← trimmedLines_surround hLine isInset_nil isInset_return]
    rfl

/-- Texts that differ in their layout alone load to the same registry, or end with the same error. -/
theorem parse_eq_of_edits {t u : Text} (h : Relation.EqvGen Edit t u) :
    Registry.parse t = Registry.parse u := by
  have hLines : trimmedLines t = trimmedLines u := by
    induction h with
    | rel t u hEdit => exact trimmedLines_of_edit hEdit
    | refl t => rfl
    | symm t u _ ih => exact ih.symm
    | trans t u v _ _ ihFirst ihSecond => exact ihFirst.trans ihSecond
  apply parse_eq_of_trimmed
  rw [map_trim_keptLines, map_trim_keptLines, hLines]

/-- A comment before an exclusion, a blank in front of it and a return behind it. -/
theorem parse_eq_of_edits_of_commented :
    Registry.parse "Exclude 1\n".toList = Registry.parse "# all\n Exclude 1\r\n".toList := by
  apply parse_eq_of_edits
  have hPad : Edit (join '\n' ["Exclude 1".toList, []])
      (join '\n' [[' '] ++ ("Exclude 1".toList ++ ['\r']), []]) :=
    .pad [] [[]] (by decide) (List.forall_mem_singleton.mpr ⟨rfl, by decide⟩) isInset_return
  have hComment : Edit (join '\n' [" Exclude 1\r".toList, []])
      (join '\n' ["# all".toList, " Exclude 1\r".toList, []]) :=
    .insert [] _ (by decide) (.inr (.inl rfl))
  exact .trans _ _ _ (.rel _ _ hPad) (.rel _ _ hComment)

end ServiceProbe.Database
