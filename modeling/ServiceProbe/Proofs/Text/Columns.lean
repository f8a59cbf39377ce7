import ServiceProbe.Proofs.Text.Separated
import ServiceProbe.Report

/-! # Columns of printed lines

A printed text is read back as the words of its lines. The blanks that fill a column up to its width
belong to no word, so a row of columns is read back whatever their widths. -/

namespace ServiceProbe
set_option autoImplicit false

namespace Text

def words (t : Text) : List Text := (t.splitOnP isBlank).filter fun part => !part.isEmpty

/-- The words of every line of a text. -/
def cells (t : Text) : List (List Text) := (lines t).map words

/-- One line with its line feed, which holds these words. -/
def IsRow (ws : List Text) (t : Text) : Prop :=
  ∃ line, t = line ++ ['\n'] ∧ '\n' ∉ line ∧ words line = ws

variable {t u w left right line rest : Text} {c : Char}

/-! ## Words -/

@[simp] theorem words_nil : words [] = [] := rfl

theorem words_append_cons (hc : isBlank c = true) (t u : Text) :
    words (t ++ c :: u) = words t ++ words u := by
  rw [words, List.splitOnP_append_cons t u hc, List.filter_append]
  rfl

@[simp] theorem words_append_space (t u : Text) : words (t ++ ' ' :: u) = words t ++ words u :=
  words_append_cons rfl t u

theorem words_append_of_blank (h : ∀ c ∈ right, isBlank c = true) (t : Text) :
    words (t ++ right) = words t := by
  induction right generalizing t with
  | nil => rw [List.append_nil]
  | cons c right ih =>
    obtain ⟨hc, hRight⟩ := List.forall_mem_cons.mp h
    have hNone : words right = [] := by simpa using ih hRight []
    rw [words_append_cons hc, hNone, List.append_nil]

theorem words_blank_append (h : ∀ c ∈ left, isBlank c = true) (t : Text) :
    words (left ++ t) = words t := by
  induction left with
  | nil => rfl
  | cons c left ih =>
    obtain ⟨hc, hLeft⟩ := List.forall_mem_cons.mp h
    exact (words_append_cons hc [] (left ++ t)).trans (ih hLeft)

theorem IsWord.words_eq (h : IsWord w) : words w = [w] := by
  rw [words, List.splitOnP_eq_singleton h.solid]
  simp [h.ne_nil]

theorem words_dropReturn (line : Text) : words (dropReturn line) = words line := by
  unfold dropReturn
  split
  · rename_i hLast
    have hEnd : line = line.dropLast ++ ['\r'] := (List.dropLast_append_getLast? _ hLast).symm
    have hBlank : ∀ c ∈ ['\r'], isBlank c = true := List.forall_mem_singleton.mpr rfl
    rw [hEnd, words_append_of_blank hBlank, ← hEnd]
  · rfl

theorem isBlank_of_mem_replicate {n : Nat} (h : c ∈ List.replicate n ' ') : isBlank c = true := by
  rw [List.eq_of_mem_replicate h]
  rfl

@[simp] theorem words_pad (h : IsWord w) (width : Nat) : words (Report.pad width w) = [w] := by
  rw [Report.pad, List.rightpad, words_append_of_blank (fun c => isBlank_of_mem_replicate), h.words_eq]

theorem words_leftpad_append (width : Nat) (t u : Text) :
    words (t.leftpad width ' ' ++ u) = words (t ++ u) := by
  rw [List.leftpad, List.append_assoc, words_blank_append fun c => isBlank_of_mem_replicate]

/-! ## Rows -/

theorem feed_mem_pad {width : Nat} : '\n' ∈ Report.pad width t ↔ '\n' ∈ t := by
  simp [Report.pad, List.rightpad]

theorem isRow_of_free (h : '\n' ∉ line) : IsRow (words line) (line ++ ['\n']) := ⟨line, rfl, h, rfl⟩

theorem IsRow.behind {ws : List Text} (h : IsRow ws t) (hFree : '\n' ∉ line) :
    IsRow (words line ++ ws) (line ++ ' ' :: t) := by
  obtain ⟨rest, rfl, hRest, rfl⟩ := h
  exact ⟨line ++ ' ' :: rest, by simp, by simp [hFree, hRest], words_append_space line rest⟩

theorem IsRow.words_eq {ws : List Text} (h : IsRow ws t) : words t = ws := by
  obtain ⟨line, rfl, _, rfl⟩ := h
  exact words_append_of_blank (List.forall_mem_singleton.mpr rfl) line

theorem cells_append {ws : List Text} (h : IsRow ws t) (rest : Text) :
    cells (t ++ rest) = ws :: cells rest := by
  obtain ⟨line, rfl, hFree, rfl⟩ := h
  rw [List.append_assoc, List.singleton_append, cells, lines_append_cons hFree, List.map_cons,
    words_dropReturn]
  rfl

theorem cells_flatMap {α : Type} {as : List α} {f : α → Text} {g : α → List Text}
    (h : ∀ a ∈ as, IsRow (g a) (f a)) (rest : Text) :
    cells (as.flatMap f ++ rest) = as.map g ++ cells rest := by
  induction as with
  | nil => rfl
  | cons a as ih =>
    obtain ⟨ha, has⟩ := List.forall_mem_cons.mp h
    rw [List.flatMap_cons, List.append_assoc, cells_append ha, ih has]
    rfl

end Text
end ServiceProbe
