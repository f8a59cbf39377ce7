import ServiceProbe.Proofs.Template.Written
import ServiceProbe.Proofs.Text.Slices

/-! # Templates read by offsets

A placeholder tells how many bytes it takes, and the reader of a template cuts the rest of the text
there. The offsets are sums of widths and of the places of what was searched for. Whatever the text,
they lie between two characters, every round of the reader leaves less of the text, and the template
is the one that is read character by character. -/

namespace ServiceProbe.Template
set_option autoImplicit false

open Text (Finding BadSlice found sliceTo sliceFrom)

/-! ## Placeholders -/

def quotedAt (t : Text) : Finding (Text × Text) := do
  let body ← found (Text.after? ['"'] t)
  let stop ← found (Text.find? (· == '"') body)
  let inside ← sliceTo body stop
  let rest ← sliceFrom body (stop + 1)
  pure (inside, rest)

def printableAt (args : Text) : Finding (Segment × Nat) := do
  let close ← found (Text.find? (· == ')') args)
  let inner ← sliceTo args close
  let index ← found (readIndex? inner)
  pure (.printable index, 2 + close + 1)

def substAt (args : Text) : Finding (Segment × Nat) := do
  let close ← found (Text.findMark? ['"', ')'] args)
  let inner ← sliceTo args (close + 1)
  let (index, inner) ← found (Text.cutOn? ',' inner)
  let index ← found (readIndex? index)
  let (old, inner) ← quotedAt inner.trimStart
  let inner ← found (Text.after? [','] inner.trimStart)
  let (new, _) ← quotedAt inner.trimStart
  pure (.subst index old new, 6 + close + 2)

def intAt (args : Text) : Finding (Segment × Nat) := do
  let close ← found (Text.find? (· == ')') args)
  let inner ← sliceTo args close
  let (index, order) ← found (Text.cutOn? ',' inner)
  let index ← found (readIndex? index)
  let bigEndian ← found (byteOrder? order.trim)
  pure (.int index bigEndian, 2 + close + 1)

/-- The placeholder after a dollar sign, and the number of its bytes. -/
def placeholderAt (t : Text) : Finding (Segment × Nat) :=
  match t with
  | [] => found none
  | c :: _ =>
    if c.isDigit then pure (.group (Text.digitValue c), 1)
    else
      match Text.after? ['P', '('] t with
      | some args => printableAt args
      | none =>
        match Text.after? "SUBST(".toList t with
        | some args => substAt args
        | none =>
          match Text.after? ['I', '('] t with
          | some args => intAt args
          | none => found none

/-- The same is read from the text and found by offsets, and the bytes it takes are those in front of
what is left to read, with `lead` more before the text. -/
def Agree (lead : Nat) (t : Text) (r : Option (Segment × Text)) (x : Finding (Segment × Nat)) : Prop :=
  r = none ∧ x = found none ∨ ∃ s passed rest, t = passed ++ rest ∧ r = some (s, rest) ∧
    x = found (some (s, lead + passed.utf8.length))

variable {t rest : Text} {s : Segment}

theorem quotedAt_eq (t : Text) : quotedAt t = found (quoted? t) := by
  by_cases hQuote : ∃ body, t = '"' :: body
  · obtain ⟨body, rfl⟩ := hQuote
    have hAfter : Text.after? ['"'] ('"' :: body) = some body := rfl
    rw [quotedAt, hAfter, Text.found_some_bind, quoted?]
    rcases Text.cutOn?_cases '"' body with ⟨_, hNone⟩ | ⟨inside, rest, rfl, _, hCut⟩
    · rw [Text.find?_eq_none hNone, hNone, Text.found_none_bind]
    · have hRest : sliceFrom (inside ++ '"' :: rest) (inside.utf8.length + 1) = .ok rest :=
        Text.sliceFrom_append_cons inside '"' rest
      rw [Text.find?_of_cutAt? hCut, hCut, Text.found_some_bind,
        Text.slice_bind (Text.sliceTo_append inside _), Text.slice_bind hRest, Text.pure_eq_found]
  · have hAfter : Text.after? ['"'] t = none := by
      refine Option.eq_none_iff_forall_ne_some.mpr fun body hBody => hQuote ⟨body, ?_⟩
      exact Text.after?_eq_some_iff.mp hBody
    have hQuoted : quoted? t = none := by
      unfold quoted?
      split
      · exact absurd ⟨_, rfl⟩ hQuote
      · rfl
    rw [quotedAt, hAfter, hQuoted, Text.found_none_bind]

theorem agree_some (lead : Nat) (passed rest : Text) (s : Segment) :
    Agree lead (passed ++ rest) (some (s, rest)) (found (some (s, lead + passed.utf8.length))) :=
  .inr ⟨s, passed, rest, rfl, rfl, rfl⟩

/-- Both look for the same thing first, and go on only where it is found. -/
theorem agree_bind {α : Type} {lead : Nat} {o : Option α} {read : α → Option (Segment × Text)}
    {attempt : α → Finding (Segment × Nat)} (h : ∀ a, o = some a → Agree lead t (read a) (attempt a)) :
    Agree lead t (o >>= read) (found o >>= attempt) := by
  cases o with
  | none => exact .inl ⟨rfl, rfl⟩
  | some a => exact h a rfl

/-- A parenthesis closes the arguments. -/
theorem agree_closed {lead : Nat} {read : Text × Text → Option (Segment × Text)}
    {attempt : Nat → Text → Finding (Segment × Nat)} (args : Text)
    (h : ∀ inner rest, Agree lead ((inner ++ [')']) ++ rest) (read (inner, rest))
      (attempt inner.utf8.length inner)) :
    Agree lead args (Text.cutOn? ')' args >>= read) (do
      let close ← found (Text.find? (· == ')') args)
      let inner ← sliceTo args close
      attempt close inner) := by
  rcases Text.cutOn?_cases ')' args with ⟨_, hNone⟩ | ⟨inner, rest, rfl, _, hCut⟩
  · rw [Text.find?_eq_none hNone, hNone]
    exact .inl ⟨rfl, rfl⟩
  · rw [Text.find?_of_cutAt? hCut, hCut, Text.found_some_bind,
      Text.slice_bind (Text.sliceTo_append inner _)]
    have hClosed := h inner rest
    rwa [List.append_assoc, List.singleton_append] at hClosed

theorem length_utf8_concat_close (inner : Text) :
    (inner ++ [')']).utf8.length = inner.utf8.length + 1 := Text.length_utf8_append inner [')']

theorem agree_printable (args : Text) : Agree 2 args (printableArguments? args) (printableAt args) := by
  refine agree_closed args fun inner rest => agree_bind fun index _ => ?_
  have hSome := agree_some 2 (inner ++ [')']) rest (.printable index)
  rwa [length_utf8_concat_close] at hSome

theorem agree_int (args : Text) : Agree 2 args (intArguments? args) (intAt args) := by
  refine agree_closed args fun inner rest => agree_bind ?_
  rintro ⟨index, order⟩ _
  refine agree_bind fun index _ => agree_bind fun bigEndian _ => ?_
  have hSome := agree_some 2 (inner ++ [')']) rest (.int index bigEndian)
  rwa [length_utf8_concat_close] at hSome

/-- The text in front of the mark is cut off with the quote that begins the mark. -/
theorem agree_subst (args : Text) : Agree 6 args (substArguments? args) (substAt args) := by
  rw [substArguments?, substAt]
  cases hCut : Text.cutMark? ['"', ')'] args with
  | none =>
    have hFind : Text.findMark? ['"', ')'] args = none := by rw [Text.findMark?, hCut]; rfl
    rw [hFind]
    exact .inl ⟨rfl, rfl⟩
  | some parts =>
    obtain ⟨inner, rest⟩ := parts
    have hFind : Text.findMark? ['"', ')'] args = some inner.utf8.length := by
      rw [Text.findMark?, hCut]
      rfl
    have hArgs : args = (inner ++ ['"', ')']) ++ rest := by
      rw [Text.append_of_cutMark? hCut, List.append_assoc]
    have hInner : sliceTo args (inner.utf8.length + 1) = .ok (inner ++ ['"']) := by
      have hSlice := Text.sliceTo_append (inner ++ ['"']) (')' :: rest)
      rw [Text.length_utf8_append, List.append_assoc] at hSlice
      rw [hArgs, List.append_assoc]
      exact hSlice
    rw [hFind, Text.found_some_bind, Text.slice_bind hInner, Option.bind_eq_bind, Option.bind_some]
    simp only [quotedAt_eq]
    refine agree_bind ?_
    rintro ⟨index, inside⟩ _
    refine agree_bind fun index _ => agree_bind ?_
    rintro ⟨old, inside⟩ _
    refine agree_bind fun inside _ => agree_bind ?_
    rintro ⟨new, _⟩ _
    have hSome := agree_some 6 (inner ++ ['"', ')']) rest (.subst index old new)
    rw [Text.length_utf8_append, ← hArgs] at hSome
    exact hSome

theorem length_utf8_of_isDigit {c : Char} (h : c.isDigit = true) : (Text.utf8 [c]).length = 1 := by
  have hWidth : c.utf8Size = 1 := by
    simp only [Char.isDigit, Bool.and_eq_true, decide_eq_true_eq] at h
    exact Char.utf8Size_eq_one_iff.mpr (UInt32.le_trans h.2 (by decide))
  rw [Text.length_utf8_cons, Text.length_utf8_nil, hWidth]

/-- A name stands before the arguments, and its bytes count with theirs. -/
theorem agree_named {name : Text} {read : Text → Option (Segment × Text)}
    {attempt : Text → Finding (Segment × Nat)} {r : Option (Segment × Text)}
    {x : Finding (Segment × Nat)} (h : ∀ args, Agree name.utf8.length args (read args) (attempt args))
    (hOther : Agree 0 t r x) :
    Agree 0 t (match Text.after? name t with | some args => read args | none => r)
      (match Text.after? name t with | some args => attempt args | none => x) := by
  cases hArgs : Text.after? name t with
  | none => exact hOther
  | some args =>
    cases Text.after?_eq_some_iff.mp hArgs
    obtain h | ⟨s, passed, rest, rfl, hRead, hAttempt⟩ := h args
    · exact .inl h
    · refine .inr ⟨s, name ++ passed, rest, (List.append_assoc name passed rest).symm, hRead, ?_⟩
      rw [Text.length_utf8_append, Nat.zero_add]
      exact hAttempt

theorem agree_placeholder (t : Text) : Agree 0 t (placeholder? t) (placeholderAt t) := by
  cases t with
  | nil => exact .inl ⟨rfl, rfl⟩
  | cons c rest =>
    rw [placeholder?, placeholderAt]
    split
    · rename_i hDigit
      have hSome := agree_some 0 [c] rest (.group (Text.digitValue c))
      rwa [length_utf8_of_isDigit hDigit] at hSome
    · exact agree_named agree_printable (agree_named agree_subst (agree_named agree_int (.inl ⟨rfl, rfl⟩)))

/-- A placeholder takes a part of the text that is not empty, and the number is that of its bytes. -/
theorem placeholderAt_cases (t : Text) : placeholder? t = none ∧ placeholderAt t = found none ∨
    ∃ s passed rest, t = passed ++ rest ∧ passed ≠ [] ∧ placeholder? t = some (s, rest) ∧
      placeholderAt t = found (some (s, passed.utf8.length)) := by
  obtain h | ⟨s, passed, rest, hSplit, hRead, hAttempt⟩ := agree_placeholder t
  · exact .inl h
  · rw [Nat.zero_add] at hAttempt
    refine .inr ⟨s, passed, rest, hSplit, ?_, hRead, hAttempt⟩
    rintro rfl
    have hShorter := length_placeholder? hRead
    rw [hSplit] at hShorter
    exact Nat.lt_irrefl _ hShorter

/-! ## Rounds -/

theorem consLiteral_append (literal : Text) (segments more : Template) :
    consLiteral literal segments ++ more = consLiteral literal (segments ++ more) := by
  unfold consLiteral
  split <;> rfl

/-- The segments so far, the literal text since the last of them, and what is left of the text. -/
structure Scan where
  segments : Template
  literal : Text
  rest : Text

namespace Scan

def advance (scan : Scan) : Except BadSlice (Option Scan) :=
  match Text.find? (· == '$') scan.rest with
  | none => .ok none
  | some dollar => do
    let front ← sliceTo scan.rest dollar
    let tail ← sliceFrom scan.rest (dollar + 1)
    match ← (placeholderAt tail).run with
    | some (segment, taken) =>
      let rest ← sliceFrom tail taken
      pure (some ⟨scan.segments ++ consLiteral (scan.literal ++ front) [segment], [], rest⟩)
    | none => pure (some ⟨scan.segments, scan.literal ++ front ++ ['$'], tail⟩)

/-- The number of bytes that are left. -/
def bytes (scan : Scan) : Nat := scan.rest.utf8.length

/-- The template that the text has when it is read on from here. -/
def result (scan : Scan) : Template := scan.segments ++ parseFrom scan.literal.reverse scan.rest

/-- The text before the dollar sign becomes literal text. With a placeholder after it, that text ends
there, and else the dollar sign is part of it. -/
theorem advance_dollar (segments : Template) (literal : Text) {front : Text} (tail : Text)
    (hFree : '$' ∉ front) : advance ⟨segments, literal, front ++ '$' :: tail⟩ = .ok (some
      (match placeholder? tail with
      | some (segment, rest) => ⟨segments ++ consLiteral (literal ++ front) [segment], [], rest⟩
      | none => ⟨segments, literal ++ front ++ ['$'], tail⟩)) := by
  have hFind : Text.find? (· == '$') (front ++ '$' :: tail) = some front.utf8.length :=
    Text.find?_of_cutAt? (Text.cutOn?_append_cons hFree tail)
  have hFront : sliceTo (front ++ '$' :: tail) front.utf8.length = .ok front :=
    Text.sliceTo_append front _
  have hTail : sliceFrom (front ++ '$' :: tail) (front.utf8.length + 1) = .ok tail :=
    Text.sliceFrom_append_cons front '$' tail
  simp only [advance, hFind, hFront, hTail, Text.ok_bind]
  obtain ⟨hRead, hAttempt⟩ | ⟨segment, passed, rest, rfl, _, hRead, hAttempt⟩ := placeholderAt_cases tail
  · simp only [hRead, hAttempt, Text.run_found, Text.ok_bind]
    rfl
  · have hRest : sliceFrom (passed ++ rest) passed.utf8.length = .ok rest :=
      Text.sliceFrom_append passed rest
    simp only [hRead, hAttempt, Text.run_found, Text.ok_bind, hRest]
    rfl

theorem advance_of_free {scan : Scan} (h : '$' ∉ scan.rest) : scan.advance = .ok none := by
  rw [advance, Text.find?_eq_none (Text.cutOn?_eq_none h)]

theorem not_mem_of_advance {scan : Scan} (h : scan.advance = .ok none) : '$' ∉ scan.rest := by
  obtain ⟨segments, literal, rest⟩ := scan
  rcases Text.cutOn?_cases '$' rest with ⟨hFree, _⟩ | ⟨front, tail, rfl, hFree, _⟩
  · exact hFree
  · cases (advance_dollar segments literal tail hFree).symm.trans h

theorem proceeds : Text.Proceeds bytes result advance := by
  rintro ⟨segments, literal, rest⟩
  rcases Text.cutOn?_cases '$' rest with ⟨hFree, _⟩ | ⟨front, tail, rfl, hFree, _⟩
  · exact ⟨none, advance_of_free hFree, by simp⟩
  · have hFewer {u : Text} (h : u <:+ tail) :
        u.utf8.length < (Text.utf8 (front ++ '$' :: tail)).length := by
      refine Text.length_utf8_lt (h.trans ⟨front ++ ['$'], by simp⟩) ?_
      have hLength := h.length_le
      rw [List.length_append, List.length_cons]
      omega
    refine ⟨_, advance_dollar segments literal tail hFree, ?_⟩
    rintro next ⟨⟩
    obtain ⟨hRead, _⟩ | ⟨segment, passed, rest, rfl, _, hRead, _⟩ := placeholderAt_cases tail
    · rw [hRead]
      refine ⟨hFewer (List.suffix_refl tail), ?_⟩
      simp [result, parseFrom_free hFree, parseFrom_of_none hRead]
    · rw [hRead]
      refine ⟨hFewer (List.suffix_append passed rest), ?_⟩
      simp [result, parseFrom_free hFree, parseFrom_of_some hRead, consLiteral_append, parse]

end Scan

/-- Reads a template as `parse` does, by offsets. -/
def parseAt (t : Text) : Except BadSlice Template := do
  let last ← Text.untilDone Scan.bytes Scan.advance Scan.proceeds.shrinks ⟨[], [], t⟩
  pure (last.segments ++ consLiteral (last.literal ++ last.rest) [])

theorem parseAt_eq (t : Text) : parseAt t = .ok (parse t) := by
  obtain ⟨last, hLast, hDone, hResult⟩ := Scan.proceeds.exists_untilDone ⟨[], [], t⟩
  have hFrom := parseFrom_free (Scan.not_mem_of_advance hDone) last.literal.reverse []
  rw [List.append_nil] at hFrom
  have hEnd : last.result = last.segments ++ consLiteral (last.literal ++ last.rest) [] := by
    rw [Scan.result, hFrom, parseFrom]
    simp
  rw [parseAt, hLast, Text.ok_bind, ← hEnd, hResult]
  rfl

end ServiceProbe.Template
