import ServiceProbe.Text.Cut

/-! # Replacement in texts

A mark that does not occur in a text leaves it alone. A character that the mark does not hold stays
where it is, and the texts on both sides of it are gone through on their own. What is replaced is
the first occurrence, and then the first one of those behind it. -/

namespace ServiceProbe.Text
set_option autoImplicit false

variable {old new t : Text} {c : Char}

theorem isSome_after?_iff : (after? old t).isSome = true ↔ old <+: t := by
  rw [Option.isSome_iff_exists]
  exact ⟨fun ⟨tail, h⟩ => ⟨tail, (after?_eq_some_iff.mp h).symm⟩,
    fun ⟨tail, h⟩ => ⟨tail, after?_eq_some_iff.mpr h.symm⟩⟩

theorem replaceFrom_eq_self (new : Text) (h : ¬ old <:+: t) :
    replaceFrom old new 0 t = t := by
  induction t with
  | nil => rfl
  | cons c rest ih =>
    have hFront : ¬ old <+: c :: rest := fun hPrefix => h hPrefix.isInfix
    have hRest : ¬ old <:+: rest := fun hIn => h (List.infix_cons hIn)
    rw [replaceFrom, if_neg (mt isSome_after?_iff.mp hFront), ih hRest]

theorem replace_eq_replaceFrom (hNonempty : old ≠ []) (new t : Text) :
    replace old new t = replaceFrom old new 0 t :=
  if_neg (by simpa using hNonempty)

theorem replace_eq_self (new : Text) (hNonempty : old ≠ []) (h : ¬ old <:+: t) :
    replace old new t = t := by
  rw [replace_eq_replaceFrom hNonempty, replaceFrom_eq_self new h]

/-! ## Characters that stay -/

theorem isSome_after?_append_cons (h : c ∉ old) (front rest : Text) :
    (after? old (front ++ c :: rest)).isSome = (after? old front).isSome := by
  induction old generalizing front with
  | nil => cases front <;> rfl
  | cons d old ih =>
    obtain ⟨hNe, hFree⟩ := not_or.mp fun hOr => h (List.mem_cons.mpr hOr)
    cases front with
    | nil => simp [after?, Ne.symm hNe]
    | cons e front =>
      rw [List.cons_append, after?, after?]
      split
      · exact ih hFree front
      · rfl

theorem length_le_of_isSome_after? (h : (after? old t).isSome = true) : old.length ≤ t.length :=
  (isSome_after?_iff.mp h).length_le

theorem replaceFrom_append_cons (hNonempty : old ≠ []) (h : c ∉ old) (front rest : Text)
    {skip : Nat} (hSkip : skip ≤ front.length) : replaceFrom old new skip (front ++ c :: rest) =
      replaceFrom old new skip front ++ c :: replaceFrom old new 0 rest := by
  -- the front is at least as long as what is left of an occurrence, since none reaches beyond it
  induction front generalizing skip with
  | nil =>
    cases Nat.le_zero.mp hSkip
    have hNone : (after? old (c :: rest)).isSome = false := by
      rw [← List.nil_append (c :: rest), isSome_after?_append_cons h]
      obtain ⟨d, old, rfl⟩ := List.exists_cons_of_ne_nil hNonempty
      rfl
    simp [replaceFrom, hNone]
  | cons d front ih =>
    cases skip with
    | succ skip => exact ih (Nat.le_of_succ_le_succ hSkip)
    | zero =>
      have hSame := isSome_after?_append_cons h (d :: front) rest
      rw [List.cons_append] at hSame ⊢
      rw [replaceFrom, replaceFrom, hSame]
      split
      · rename_i hFound
        have hLength := length_le_of_isSome_after? hFound
        rw [List.length_cons] at hLength
        rw [ih (by omega), List.append_assoc]
      · rw [ih (Nat.zero_le _)]
        rfl

theorem replace_append_cons (hNonempty : old ≠ []) (h : c ∉ old) (front rest : Text) :
    replace old new (front ++ c :: rest) = replace old new front ++ c :: replace old new rest := by
  simp only [replace_eq_replaceFrom hNonempty]
  exact replaceFrom_append_cons hNonempty h front rest (Nat.zero_le _)

theorem replace_nil (hNonempty : old ≠ []) : replace old new [] = [] :=
  replace_eq_replaceFrom hNonempty new []

theorem replace_append_free (hNonempty : old ≠ []) {right : Text} (h : ∀ c ∈ right, c ∉ old)
    (t : Text) : replace old new (t ++ right) = replace old new t ++ right := by
  induction right generalizing t with
  | nil => rw [List.append_nil, List.append_nil]
  | cons c right ih =>
    obtain ⟨hc, hRight⟩ := List.forall_mem_cons.mp h
    have hRest := ih hRight []
    rw [List.nil_append, replace_nil hNonempty, List.nil_append] at hRest
    rw [replace_append_cons hNonempty hc, hRest]

theorem replace_free_append (hNonempty : old ≠ []) {left : Text} (h : ∀ c ∈ left, c ∉ old)
    (t : Text) : replace old new (left ++ t) = left ++ replace old new t := by
  induction left with
  | nil => rfl
  | cons c left ih =>
    obtain ⟨hc, hLeft⟩ := List.forall_mem_cons.mp h
    have hFirst : replace old new (c :: (left ++ t)) =
        replace old new [] ++ c :: replace old new (left ++ t) :=
      replace_append_cons hNonempty hc [] (left ++ t)
    rw [replace_nil hNonempty, ih hLeft] at hFirst
    exact hFirst

/-! ## Characters that are brought in -/

theorem mem_replaceFrom {skip : Nat} (h : c ∈ replaceFrom old new skip t) : c ∈ t ∨ c ∈ new := by
  induction t generalizing skip with
  | nil => cases h
  | cons d t ih =>
    cases skip with
    | succ skip => exact (ih h).imp_left (List.mem_cons_of_mem d)
    | zero =>
      rw [replaceFrom] at h
      split at h
      · rcases List.mem_append.mp h with hNew | hRest
        · exact .inr hNew
        · exact (ih hRest).imp_left (List.mem_cons_of_mem d)
      · rcases List.mem_cons.mp h with rfl | hRest
        · exact .inl List.mem_cons_self
        · exact (ih hRest).imp_left (List.mem_cons_of_mem d)

theorem mem_replace (hNonempty : old ≠ []) (h : c ∈ replace old new t) : c ∈ t ∨ c ∈ new := by
  rw [replace_eq_replaceFrom hNonempty] at h
  exact mem_replaceFrom h

theorem replace_eq_self_of_not_mem (hNonempty : old ≠ []) (hNew : c ∈ new)
    (h : c ∉ replace old new t) : replace old new t = t := by
  rw [replace_eq_replaceFrom hNonempty] at h ⊢
  induction t with
  | nil => rfl
  | cons d t ih =>
    rw [replaceFrom] at h ⊢
    split at h
    · exact absurd (List.mem_append_left _ hNew) h
    · rename_i hNone
      rw [if_neg hNone, ih fun hMem => h (List.mem_cons_of_mem d hMem)]

theorem replace_ne_nil (hNonempty : old ≠ []) (hNew : new ≠ []) (ht : t ≠ []) :
    replace old new t ≠ [] := by
  obtain ⟨d, t, rfl⟩ := List.exists_cons_of_ne_nil ht
  rw [replace_eq_replaceFrom hNonempty, replaceFrom]
  split
  · simp [hNew]
  · exact List.cons_ne_nil _ _

/-! ## Occurrences -/

variable {front rest out : Text}

/-- No occurrence of a text begins earlier than the one behind `front`. -/
def IsFirst (old front rest : Text) : Prop :=
  ∀ front' rest', front ++ (old ++ rest) = front' ++ (old ++ rest') → front.length ≤ front'.length

/-- The occurrences of a text give way to another one, each search going on behind the one before.
The empty text occurs in front of every character and at the end. -/
inductive Replaces (old new : Text) : Text → Text → Prop
  | last {t : Text} (h : ¬ old <:+: t) : Replaces old new t t
  | next {front rest out : Text} (hNonempty : old ≠ []) (hFirst : IsFirst old front rest)
      (h : Replaces old new rest out) :
      Replaces old new (front ++ (old ++ rest)) (front ++ (new ++ out))
  | everywhere (hEmpty : old = []) (t : Text) :
      Replaces old new t (new ++ t.flatMap fun c => c :: new)

theorem replaceFrom_length (passed rest : Text) :
    replaceFrom old new passed.length (passed ++ rest) = replaceFrom old new 0 rest := by
  induction passed with
  | nil => rfl
  | cons c passed ih => exact ih

theorem replaceFrom_occurrence (hNonempty : old ≠ []) (new rest : Text) :
    replaceFrom old new 0 (old ++ rest) = new ++ replaceFrom old new 0 rest := by
  have hFound : (after? old (old ++ rest)).isSome = true :=
    isSome_after?_iff.mpr (List.prefix_append old rest)
  obtain ⟨c, passed, rfl⟩ := List.exists_cons_of_ne_nil hNonempty
  rw [List.cons_append] at hFound ⊢
  rw [replaceFrom, if_pos hFound]
  exact congrArg (new ++ ·) (replaceFrom_length passed rest)

theorem IsFirst.of_cons (h : IsFirst old (c :: front) rest) :
    ¬ old <+: c :: (front ++ (old ++ rest)) ∧ IsFirst old front rest := by
  constructor
  · rintro ⟨rest', hSame⟩
    exact absurd (h [] rest' hSame.symm) (by simp)
  · intro front' rest' hSame
    have hLength := h (c :: front') rest' (by rw [List.cons_append, hSame]; rfl)
    exact Nat.le_of_succ_le_succ hLength

theorem replaceFrom_first (hNonempty : old ≠ []) (new : Text) (h : IsFirst old front rest) :
    replaceFrom old new 0 (front ++ (old ++ rest)) =
      front ++ (new ++ replaceFrom old new 0 rest) := by
  induction front with
  | nil => exact replaceFrom_occurrence hNonempty new rest
  | cons c front ih =>
    obtain ⟨hFront, hFirst⟩ := h.of_cons
    rw [List.cons_append, replaceFrom, if_neg (mt isSome_after?_iff.mp hFront), ih hFirst]
    rfl

theorem Replaces.cons (hNonempty : old ≠ []) (h : Replaces old new t out)
    (hFront : ¬ old <+: c :: t) : Replaces old new (c :: t) (c :: out) := by
  cases h with
  | last hNone => exact .last fun hIn => (List.infix_cons_iff.mp hIn).elim hFront hNone
  | @next front rest out _ hFirst hRest =>
    refine @Replaces.next old new (c :: front) rest out hNonempty ?_ hRest
    intro front' rest' hSame
    cases front' with
    | nil => exact absurd ⟨rest', hSame.symm⟩ hFront
    | cons d front' => exact Nat.succ_le_succ (hFirst front' rest' (List.cons.inj hSame).2)
  | everywhere hEmpty t => exact absurd hEmpty hNonempty

theorem replaces_replaceFrom (hNonempty : old ≠ []) (new t : Text) :
    Replaces old new t (replaceFrom old new 0 t) := by
  -- by the length of the text, since an occurrence is passed over as a whole
  induction hLength : t.length using Nat.strongRecOn generalizing t with
  | ind length ih =>
    subst hLength
    by_cases hFront : old <+: t
    · obtain ⟨rest, rfl⟩ := hFront
      have hPositive := List.length_pos_iff.mpr hNonempty
      have hRest := ih rest.length (by rw [List.length_append]; omega) rest rfl
      rw [replaceFrom_occurrence hNonempty]
      exact @Replaces.next old new [] rest _ hNonempty (fun _ _ _ => Nat.zero_le _) hRest
    · cases t with
      | nil => exact .last fun hIn => hFront (List.infix_nil.mp hIn ▸ List.nil_prefix)
      | cons c t =>
        rw [replaceFrom, if_neg (mt isSome_after?_iff.mp hFront)]
        exact (ih t.length (Nat.lt_succ_self _) t rfl).cons hNonempty hFront

theorem replaces_iff : Replaces old new t out ↔ replace old new t = out := by
  constructor
  · intro h
    induction h with
    | last hNone =>
      refine replace_eq_self new (fun hNil => hNone ?_) hNone
      exact hNil ▸ List.nil_infix
    | next hNonempty hFirst h ih =>
      rw [replace_eq_replaceFrom hNonempty] at ih ⊢
      rw [replaceFrom_first hNonempty new hFirst, ih]
    | everywhere hEmpty t => rw [replace, if_pos (List.isEmpty_iff.mpr hEmpty)]
  · rintro rfl
    by_cases hEmpty : old = []
    · rw [replace, if_pos (List.isEmpty_iff.mpr hEmpty)]
      exact .everywhere hEmpty t
    · rw [replace_eq_replaceFrom hEmpty]
      exact replaces_replaceFrom hEmpty new t

end ServiceProbe.Text
