import ServiceProbe.Proofs.Text.Parts
import ServiceProbe.Proofs.Text.Spacing
import ServiceProbe.Text.Number

/-! # Lines, lists and numbers read back

Lines with their endings, parts with commas between them and numbers in decimal digits are read back
from what is written. -/

namespace ServiceProbe.Text
set_option autoImplicit false

/-! ## Lines -/

def IsLineEnd (t : Text) : Prop := t = ['\n'] ∨ t = ['\r', '\n']

/-- Lines with an ending each, which the last one may lack unless it is empty. -/
inductive Listed : List Text → Text → Prop
  | nil : Listed [] []
  | last {line : Text} (h : line ≠ []) : Listed [line] line
  | cons {line ending rest : Text} {lines : List Text} (hEnd : IsLineEnd ending)
    (h : Listed lines rest) : Listed (line :: lines) (line ++ (ending ++ rest))

theorem Listed.exists (lines : List Text) : ∃ t, Listed lines t := by
  induction lines with
  | nil => exact ⟨[], nil⟩
  | cons line lines ih =>
    obtain ⟨rest, hRest⟩ := ih
    exact ⟨_, cons (Or.inl rfl) hRest⟩

theorem lines_of_not_mem {line : Text} (h : '\n' ∉ line) (hNonempty : line ≠ []) :
    lines line = [line] := by
  simp [lines, List.splitOn_eq_singleton h, hNonempty]

theorem lines_append_cons {line : Text} (h : '\n' ∉ line) (rest : Text) :
    lines (line ++ '\n' :: rest) = dropReturn line :: lines rest := by
  obtain ⟨part, parts, hParts⟩ := List.exists_cons_of_ne_nil (List.splitOn_ne_nil '\n' rest)
  simp [lines, List.splitOn_append_cons_self_of_not_mem h, hParts]

theorem dropReturn_of_last {line : Text} (h : line.getLast? ≠ some '\r') :
    dropReturn line = line := if_neg h

theorem lines_of_listed {ls : List Text} {t : Text} (h : Listed ls t)
    (hFree : ∀ line ∈ ls, '\n' ∉ line) (hLast : ∀ line ∈ ls, line.getLast? ≠ some '\r') :
    lines t = ls := by
  induction h with
  | nil => rfl
  | last hNonempty => exact lines_of_not_mem (hFree _ List.mem_cons_self) hNonempty
  | @cons line ending rest ls hEnd hRest ih =>
    obtain ⟨hLineFree, hRestFree⟩ := List.forall_mem_cons.mp hFree
    obtain ⟨hLineLast, hRestLast⟩ := List.forall_mem_cons.mp hLast
    rw [← ih hRestFree hRestLast]
    rcases hEnd with rfl | rfl
    · rw [List.singleton_append, lines_append_cons hLineFree, dropReturn_of_last hLineLast]
    -- the return is cut off with the line, and dropped from its end
    · have hFeed : '\n' ∉ line ++ ['\r'] := by simp [hLineFree]
      have hSplit : line ++ (['\r', '\n'] ++ rest) = (line ++ ['\r']) ++ '\n' :: rest := by simp
      rw [hSplit, lines_append_cons hFeed]
      simp [dropReturn]

theorem feed_not_mem_of_mem_lines {line t : Text} (h : line ∈ lines t) : '\n' ∉ line := by
  have hParts : ∀ part ∈ t.splitOn '\n', '\n' ∉ part :=
    fun part hPart hFeed => (mem_of_mem_splitOn hPart hFeed).2 rfl
  rcases List.mem_append.mp h with hEnded | hLast
  · obtain ⟨part, hPart, rfl⟩ := List.mem_map.mp hEnded
    have hFree := hParts part (List.dropLast_subset _ hPart)
    unfold dropReturn
    split
    · exact fun hFeed => hFree (List.dropLast_subset _ hFeed)
    · exact hFree
  · split at hLast
    · cases hLast
    · rw [List.mem_singleton.mp hLast]
      cases hEnd : (t.splitOn '\n').getLast? with
      | none => exact List.not_mem_nil
      | some last => exact hParts last (List.mem_of_getLast? hEnd)

/-! ## Parts between commas -/

theorem commaParts_join {parts : List Text} (hNonempty : parts ≠ [])
    (hFree : ∀ part ∈ parts, ',' ∉ part) : commaParts (join ',' parts) = parts :=
  splitOn_join hNonempty hFree

theorem isWord_join {parts : List Text} (hNonempty : parts ≠ []) (h : ∀ part ∈ parts, IsWord part) :
    IsWord (join ',' parts) := by
  refine ⟨join_ne_nil hNonempty fun part hIn => (h part hIn).ne_nil, fun c hc => ?_⟩
  rcases mem_join hc with rfl | ⟨part, hIn, hMem⟩
  · rfl
  · exact (h part hIn).solid c hMem

/-! ## Numbers -/

theorem isBlank_of_isDigit {c : Char} (h : c.isDigit = true) : isBlank c = false := by
  simp only [Char.isDigit, Bool.and_eq_true, decide_eq_true_eq, ge_iff_le, UInt32.le_iff_toNat_le] at h
  have hLow : 48 ≤ c.toNat := h.1
  have hHigh : c.toNat ≤ 57 := h.2
  simp only [isBlank, Bool.or_eq_false_iff, Bool.and_eq_false_iff, decide_eq_false_iff_not,
    beq_eq_false_iff_ne]
  omega

theorem isDigit_of_mem_ofNat {n : Nat} {c : Char} (h : c ∈ ofNat n) : c.isDigit = true :=
  Nat.isDigit_of_mem_toDigits (by decide) (by decide) h

theorem ofNat_ne_nil (n : Nat) : ofNat n ≠ [] := Nat.toDigits_ne_nil

theorem isWord_ofNat (n : Nat) : IsWord (ofNat n) :=
  ⟨ofNat_ne_nil n, fun _ hc => isBlank_of_isDigit (isDigit_of_mem_ofNat hc)⟩

theorem readDecimal?_ofNat (n : Nat) : readDecimal? (ofNat n) = some n := by
  have hDigits : (ofNat n).all Char.isDigit = true :=
    List.all_eq_true.mpr fun c hc => isDigit_of_mem_ofNat hc
  have hValue : (ofNat n).foldl (fun n c => 10 * n + digitValue c) 0 = n :=
    Nat.ofDigitChars_eq_foldl.symm.trans Nat.ofDigitChars_ten_toDigits
  simp [readDecimal?, hDigits, hValue, ofNat_ne_nil]

theorem dropPlus_ofNat (n : Nat) : dropPlus (ofNat n) = ofNat n := by
  unfold dropPlus
  split
  · rename_i hEq
    have hPlus : '+' ∈ ofNat n := hEq ▸ List.mem_cons_self
    exact absurd (isDigit_of_mem_ofNat hPlus) (by decide)
  · rfl

theorem readUnsigned?_ofNat {limit n : Nat} (h : n ≤ limit) :
    readUnsigned? limit (ofNat n) = some n := by
  simp [readUnsigned?, dropPlus_ofNat, readDecimal?_ofNat, h]

end ServiceProbe.Text
