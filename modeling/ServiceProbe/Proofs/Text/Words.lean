import ServiceProbe.Proofs.Text.Accepted

/-! # First words of texts

The first word of a text and what follows it are told by how the text is put together: blanks, a word,
and a rest that is empty or begins with a blank. Blanks around the text do not count for the word. -/

namespace ServiceProbe.Text
set_option autoImplicit false

variable {t w rest left right : Text}

theorem head_of_trimStart {c : Char} (h : t.trimStart = c :: rest) : isBlank c = false := by
  have hHead := List.head?_dropWhile_not isBlank t
  rw [trimStart] at h
  rwa [h] at hHead

theorem isTight_trim (h : t.trim ≠ []) : IsTight t.trim := by
  rw [trim] at h ⊢
  cases hStart : t.trimStart with
  | nil =>
    rw [hStart] at h
    exact absurd rfl h
  | cons c rest =>
    have hc : isBlank c = false := head_of_trimStart hStart
    constructor
    · exact ⟨c, trimEnd rest, trimEnd_append_cons [] hc rest, hc⟩
    · rw [hStart] at h
      cases hEnd : (c :: rest).reverse.dropWhile isBlank with
      | nil => exact absurd (congrArg List.reverse hEnd) h
      | cons d front =>
        have hLast : trimStart (c :: rest).reverse = d :: front := hEnd
        exact ⟨front.reverse, d, by rw [trimEnd, hEnd, List.reverse_cons], head_of_trimStart hLast⟩

theorem isWord_of_word {c : Char} (hc : isBlank c = false) (t : Text) : IsWord (word (c :: t)).1 := by
  constructor
  · simp [word, hc]
  · intro d hd
    have hPass := List.mem_takeWhile_imp hd
    simpa using hPass

theorem head_of_word (t : Text) : ∀ c ∈ (word t).2.head?, isBlank c = true := by
  intro c hc
  have hHead := List.head?_dropWhile_not (fun c => !isBlank c) t
  rw [word, Option.mem_def] at hc
  rw [hc] at hHead
  simpa using hHead

theorem nextWord?_eq_none_iff : nextWord? t = none ↔ ∀ c ∈ t, isBlank c = true := by
  rw [← List.dropWhile_eq_nil_iff]
  unfold nextWord? trimStart
  cases t.dropWhile isBlank <;> simp

theorem nextWord?_eq_some_iff : nextWord? t = some (w, rest) ↔ ∃ left : Text,
    (∀ c ∈ left, isBlank c = true) ∧ t = left ++ (w ++ rest) ∧ IsWord w ∧
      ∀ c ∈ rest.head?, isBlank c = true := by
  constructor
  · intro h
    unfold nextWord? at h
    cases hStart : t.trimStart with
    | nil =>
      rw [hStart] at h
      cases h
    | cons c others =>
      rw [hStart] at h
      cases h
      refine ⟨t.takeWhile isBlank, fun _ hd => List.mem_takeWhile_imp hd, ?_,
        isWord_of_word (head_of_trimStart hStart) others, head_of_word (c :: others)⟩
      rw [List.takeWhile_append_dropWhile, ← hStart]
      exact List.takeWhile_append_dropWhile.symm
  · rintro ⟨left, hLeft, rfl, hWord, hRest⟩
    obtain ⟨c, others, rfl⟩ := List.exists_cons_of_ne_nil hWord.ne_nil
    have hStart : (left ++ (c :: others ++ rest)).trimStart = c :: others ++ rest := by
      rw [trimStart_append_of_blank hLeft, hWord.isTight.trimStart_append]
    rw [nextWord?, hStart]
    exact congrArg some (word_append_of_solid hWord.solid hRest)

theorem nextWord?_surround (hLeft : ∀ c ∈ left, isBlank c = true)
    (hRight : ∀ c ∈ right, isBlank c = true) (t : Text) : nextWord? (left ++ (t ++ right)) =
      (nextWord? t).map fun (w, rest) => (w, rest ++ right) := by
  cases hWord : nextWord? t with
  | none =>
    have hBlank := nextWord?_eq_none_iff.mp hWord
    rw [Option.map_none, nextWord?_eq_none_iff]
    exact List.forall_mem_append.mpr ⟨hLeft, List.forall_mem_append.mpr ⟨hBlank, hRight⟩⟩
  | some found =>
    obtain ⟨w, rest⟩ := found
    obtain ⟨before, hBefore, rfl, hSolid, hRest⟩ := nextWord?_eq_some_iff.mp hWord
    rw [Option.map_some, nextWord?_eq_some_iff]
    refine ⟨left ++ before, List.forall_mem_append.mpr ⟨hLeft, hBefore⟩, by simp, hSolid, ?_⟩
    intro c hc
    cases rest with
    | nil => exact hRight c (List.mem_of_mem_head? hc)
    | cons d rest => exact hRest c hc

theorem trimStart_trim (t : Text) : t.trim.trimStart = t.trim := by
  rw [trim]
  cases hStart : t.trimStart with
  | nil => rfl
  | cons c rest =>
    have hSolid := head_of_trimStart hStart
    have hEnd : trimEnd (c :: rest) = c :: trimEnd rest := trimEnd_append_cons [] hSolid rest
    rw [hEnd]
    exact List.dropWhile_cons_of_neg (by simp [hSolid])

theorem trim_trim (t : Text) : t.trim.trim = t.trim := (isSurrounded_trim t).trim_eq.symm

end ServiceProbe.Text
