import Mathlib.Data.List.Forall2
import ServiceProbe.Text.Cut

/-! # Texts in parts

Parts that do not hold the separator between them are found again when the text is split at it. A
reader that is applied to one part after the other succeeds exactly when it reads each of them. -/

namespace ServiceProbe.Text
set_option autoImplicit false

variable {c d : Char} {t : Text} {parts : List Text}

theorem splitOn_join (hNonempty : parts ≠ []) (hFree : ∀ part ∈ parts, d ∉ part) :
    (join d parts).splitOn d = parts := by
  induction parts with
  | nil => exact absurd rfl hNonempty
  | cons part parts ih =>
    obtain ⟨hPart, hParts⟩ := List.forall_mem_cons.mp hFree
    cases parts with
    | nil => exact List.splitOn_eq_singleton hPart
    | cons next parts =>
      have hCut := List.splitOn_append_cons_self_of_not_mem hPart (join d (next :: parts))
      exact hCut.trans (congrArg (part :: ·) (ih (List.cons_ne_nil _ _) hParts))

theorem mem_join (h : c ∈ join d parts) : c = d ∨ ∃ part ∈ parts, c ∈ part := by
  induction parts with
  | nil => cases h
  | cons part parts ih =>
    cases parts with
    | nil => exact .inr ⟨part, List.mem_cons_self, h⟩
    | cons next parts =>
      rcases List.mem_append.mp h with hPart | hRest
      · exact .inr ⟨part, List.mem_cons_self, hPart⟩
      · rcases List.mem_cons.mp hRest with rfl | hRest
        · exact .inl rfl
        · obtain hSeparator | ⟨found, hFound, hMem⟩ := ih hRest
          · exact .inl hSeparator
          · exact .inr ⟨found, List.mem_cons_of_mem _ hFound, hMem⟩

theorem join_ne_nil (hNonempty : parts ≠ []) (h : ∀ part ∈ parts, part ≠ []) :
    join d parts ≠ [] := by
  obtain ⟨part, parts, rfl⟩ := List.exists_cons_of_ne_nil hNonempty
  cases parts with
  | nil => exact h part List.mem_cons_self
  | cons next parts => simp [join]

theorem exists_mem_splitOn (h : c ∈ t) (hNe : c ≠ d) : ∃ part ∈ t.splitOn d, c ∈ part := by
  induction t with
  | nil => cases h
  | cons first t ih =>
    obtain ⟨part, parts, hParts⟩ := List.exists_cons_of_ne_nil (List.splitOn_ne_nil d t)
    rw [List.splitOn_cons_eq_if_modifyHead, hParts]
    rw [hParts] at ih
    split
    · rename_i hFirst
      rcases List.mem_cons.mp h with rfl | hRest
      · exact absurd (beq_iff_eq.mp hFirst) hNe
      · obtain ⟨found, hFound, hMem⟩ := ih hRest
        exact ⟨found, List.mem_cons_of_mem _ hFound, hMem⟩
    · rw [List.modifyHead_cons, List.exists_mem_cons_iff]
      rcases List.mem_cons.mp h with rfl | hRest
      · exact .inl List.mem_cons_self
      · exact (List.exists_mem_cons_iff _ _ _).mp (ih hRest) |>.imp (List.mem_cons_of_mem _) id

theorem mem_of_mem_splitOn {part : Text} (hPart : part ∈ t.splitOn d) (hc : c ∈ part) :
    c ∈ t ∧ c ≠ d := by
  induction t generalizing part with
  | nil =>
    rw [List.splitOn_nil, List.mem_singleton] at hPart
    rw [hPart] at hc
    cases hc
  | cons first t ih =>
    have hLater {part : Text} (hPart : part ∈ t.splitOn d) (hc : c ∈ part) : c ∈ first :: t ∧ c ≠ d :=
      (ih hPart hc).imp_left (List.mem_cons_of_mem _)
    rw [List.splitOn_cons_eq_if_modifyHead] at hPart
    split at hPart
    · rcases List.mem_cons.mp hPart with rfl | hRest
      · cases hc
      · exact hLater hRest hc
    · rename_i hFirst
      obtain ⟨head, parts, hParts⟩ := List.exists_cons_of_ne_nil (List.splitOn_ne_nil d t)
      rw [hParts] at hLater
      rw [hParts, List.modifyHead_cons] at hPart
      rcases List.mem_cons.mp hPart with rfl | hRest
      · rcases List.mem_cons.mp hc with rfl | hHead
        · exact ⟨List.mem_cons_self, by simpa using hFirst⟩
        · exact hLater List.mem_cons_self hHead
      · exact hLater (List.mem_cons_of_mem _ hRest) hc

/-! ## Marks -/

theorem append_of_cutMark? {mark head tail : Text} (h : cutMark? mark t = some (head, tail)) :
    t = head ++ (mark ++ tail) := by
  induction t generalizing head with
  | nil =>
    unfold cutMark? at h
    split at h
    · rename_i hEmpty
      cases h
      rw [List.isEmpty_iff.mp hEmpty]
      rfl
    · cases h
  | cons c t ih =>
    unfold cutMark? at h
    split at h
    · rename_i hFound
      cases h
      rw [List.nil_append]
      exact after?_eq_some_iff.mp hFound
    · obtain ⟨⟨inner, found⟩, hFound, hEq⟩ := Option.map_eq_some_iff.mp h
      cases hEq
      rw [ih hFound]
      rfl

theorem cutMark?_append {mark : Text} (h : d ∉ t) (rest : Text) :
    cutMark? (d :: mark) (t ++ rest) =
      (cutMark? (d :: mark) rest).map fun (head, tail) => (t ++ head, tail) := by
  induction t with
  | nil => simp
  | cons c t ih =>
    obtain ⟨hNe, hFree⟩ := not_or.mp fun hOr => h (List.mem_cons.mpr hOr)
    rw [List.cons_append, cutMark?, after?, if_neg hNe, ih hFree, Option.map_map]
    rfl

theorem cutMark?_join_append (h : ∀ part ∈ parts, part ≠ [] ∧ d ∉ part) (rest : Text) :
    cutMark? [d, d] (join d parts ++ rest) =
      (cutMark? [d, d] rest).map fun (head, tail) => (join d parts ++ head, tail) := by
  induction parts with
  | nil => simp [join]
  | cons part parts ih =>
    obtain ⟨⟨_, hPart⟩, hParts⟩ := List.forall_mem_cons.mp h
    cases parts with
    | nil => exact cutMark?_append hPart rest
    | cons next parts =>
      obtain ⟨⟨hNonempty, hNext⟩, _⟩ := List.forall_mem_cons.mp hParts
      obtain ⟨c, others, rfl⟩ := List.exists_cons_of_ne_nil hNonempty
      obtain ⟨after, hJoin⟩ : ∃ after, join d ((c :: others) :: parts) = c :: after := by
        cases parts with
        | nil => exact ⟨_, rfl⟩
        | cons => exact ⟨_, rfl⟩
      have hNe : d ≠ c := fun hSame => hNext (hSame ▸ List.mem_cons_self)
      have hPass : cutMark? [d, d] (d :: (join d ((c :: others) :: parts) ++ rest)) =
          (cutMark? [d, d] (join d ((c :: others) :: parts) ++ rest)).map
            fun (head, tail) => (d :: head, tail) := by
        rw [hJoin, List.cons_append, cutMark?, after?, if_pos rfl, after?, if_neg hNe]
      rw [join, List.append_assoc, List.cons_append, cutMark?_append hPart, hPass, ih hParts,
        Option.map_map, Option.map_map]
      simp only [Function.comp_def, List.append_assoc, List.cons_append]
      exact List.cons_ne_nil _ _

end ServiceProbe.Text

namespace ServiceProbe

theorem exists_of_bind_eq_ok {ε α β : Type} {r : Except ε α} {f : α → Except ε β} {b : β}
    (h : r >>= f = .ok b) : ∃ a, r = .ok a ∧ f a = .ok b := by
  cases r with
  | error e => cases h
  | ok a => exact ⟨a, rfl, h⟩

theorem mapM_eq_ok_iff {ε α β : Type} {f : α → Except ε β} {as : List α} {bs : List β} :
    as.mapM f = .ok bs ↔ List.Forall₂ (fun a b => f a = .ok b) as bs := by
  induction as generalizing bs with
  | nil => simp [pure, Except.pure, eq_comm]
  | cons a as ih =>
    rw [List.mapM_cons]
    constructor
    · intro h
      obtain ⟨b, hb, h⟩ := exists_of_bind_eq_ok h
      obtain ⟨rest, hRest, h⟩ := exists_of_bind_eq_ok h
      cases h
      exact .cons hb (ih.mp hRest)
    · intro h
      cases h with
      | cons hb hRest =>
        rw [hb, ih.mpr hRest]
        rfl

theorem exists_mapM_eq_ok_iff {ε α β : Type} {f : α → Except ε β} {as : List α} :
    (∃ bs, as.mapM f = .ok bs) ↔ ∀ a ∈ as, ∃ b, f a = .ok b := by
  simp only [mapM_eq_ok_iff]
  induction as with
  | nil => simp
  | cons a as ih => simp [List.forall₂_cons_left_iff, ← ih]

theorem mem_of_mapM_eq_ok {ε α β : Type} {f : α → Except ε β} {as : List α} {bs : List β}
    (h : as.mapM f = .ok bs) {b : β} : b ∈ bs ↔ ∃ a ∈ as, f a = .ok b := by
  induction mapM_eq_ok_iff.mp h with
  | nil => simp
  | cons hFirst hRest ih =>
    rw [List.mem_cons, ih (mapM_eq_ok_iff.mpr hRest), List.exists_mem_cons_iff, hFirst,
      Except.ok.injEq, eq_comm]

theorem mapM_eq_some_iff {α β : Type} {f : α → Option β} {as : List α} {bs : List β} :
    as.mapM f = some bs ↔ List.Forall₂ (fun a b => f a = some b) as bs := by
  induction as generalizing bs with
  | nil => simp [eq_comm]
  | cons a as ih =>
    rw [List.mapM_cons]
    constructor
    · intro h
      obtain ⟨b, hb, h⟩ := Option.bind_eq_some_iff.mp h
      obtain ⟨rest, hRest, h⟩ := Option.bind_eq_some_iff.mp h
      cases h
      exact .cons hb (ih.mp hRest)
    · intro h
      cases h with
      | cons hb hRest =>
        rw [hb, ih.mpr hRest]
        rfl

theorem exists_of_mapM_eq_some {α β : Type} {f : α → Option β} {as : List α} {bs : List β}
    (h : as.mapM f = some bs) : ∀ a ∈ as, ∃ b, f a = some b := by
  induction mapM_eq_some_iff.mp h with
  | nil => simp
  | cons hFirst hRest ih =>
    exact List.forall_mem_cons.mpr ⟨⟨_, hFirst⟩, ih (mapM_eq_some_iff.mpr hRest)⟩

end ServiceProbe
