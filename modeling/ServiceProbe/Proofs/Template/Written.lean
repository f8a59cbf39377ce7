import Mathlib.Data.List.Chain
import ServiceProbe.Proofs.Text.Accepted
import ServiceProbe.Proofs.Text.Parts
import ServiceProbe.Proofs.Text.Separated
import ServiceProbe.Template

/-! # Written templates

A list of segments is written out as a template and read back. The placeholder for a replacement
ends at the first quote with a parenthesis after it, and that may be an opening quote: a text to
replace, or to put in its place, that begins with a closing parenthesis makes the placeholder
literal text. All other lists are read back as they are. -/

namespace ServiceProbe
set_option autoImplicit false

namespace Segment

def write : Segment → Text
  | literal text => text
  | group index => '$' :: Text.ofNat index
  | printable index => '$' :: 'P' :: '(' :: (Text.ofNat index ++ [')'])
  | subst index old new => '$' :: ("SUBST(".toList ++ (Text.ofNat index ++
      ',' :: '"' :: (old ++ '"' :: ',' :: '"' :: (new ++ ['"', ')']))))
  | int index bigEndian => '$' :: 'I' :: '(' :: (Text.ofNat index ++
      [',', '"', if bigEndian then '>' else '<', '"', ')'])

/-- What a segment may hold: literal text without a dollar sign, one digit for a plain group, a
number of machine size for any other, and texts without a quote. -/
def IsWritable : Segment → Prop
  | literal text => text ≠ [] ∧ '$' ∉ text
  | group index => index ≤ 9
  | printable index | int index _ => index ≤ Template.groupLimit
  | subst index old new => index ≤ Template.groupLimit ∧ '"' ∉ old ∧ '"' ∉ new

def isLiteral : Segment → Bool
  | literal _ => true
  | _ => false

/-- One of the quotes that open a text has a closing parenthesis after it. -/
def closesEarly : Segment → Bool
  | subst _ old new => old.head? == some ')' || new.head? == some ')'
  | _ => false

end Segment

namespace Template

def write (template : Template) : Text := template.flatMap Segment.write

structure IsWritable (template : Template) : Prop where
  segments : ∀ s ∈ template, s.IsWritable
  apart : template.IsChain fun s next => s.isLiteral = false ∨ next.isLiteral = false

variable {index : Nat} {old new rest literal : Text} {s : Segment} {template : Template}

/-! ## Arguments -/

theorem not_mem_ofNat {c : Char} (h : c.isDigit = false) : c ∉ Text.ofNat index := by
  intro hIn
  rw [Text.isDigit_of_mem_ofNat hIn] at h
  cases h

theorem readIndex?_ofNat (h : index ≤ groupLimit) : readIndex? (Text.ofNat index) = some index := by
  rw [readIndex?, (Text.isWord_ofNat index).isTight.trim, Text.readUnsigned?_ofNat h]

theorem printableArguments?_written (h : index ≤ groupLimit) (rest : Text) :
    printableArguments? (Text.ofNat index ++ ')' :: rest) = some (.printable index, rest) := by
  rw [printableArguments?, Text.cutOn?_append_cons (not_mem_ofNat (by decide))]
  simp [readIndex?_ofNat h]

theorem byteOrder?_written (bigEndian : Bool) :
    byteOrder? (Text.trim ['"', if bigEndian then '>' else '<', '"']) = some bigEndian := by
  cases bigEndian <;> rfl

theorem intArguments?_written (h : index ≤ groupLimit) (bigEndian : Bool) (rest : Text) :
    intArguments? (Text.ofNat index ++
        ',' :: '"' :: (if bigEndian then '>' else '<') :: '"' :: ')' :: rest) =
      some (.int index bigEndian, rest) := by
  have hSplit : Text.ofNat index ++
        ',' :: '"' :: (if bigEndian then '>' else '<') :: '"' :: ')' :: rest =
      (Text.ofNat index ++ ',' :: ['"', if bigEndian then '>' else '<', '"']) ++ ')' :: rest := by
    simp
  have hFree : ')' ∉ Text.ofNat index ++ ',' :: ['"', if bigEndian then '>' else '<', '"'] := by
    have hDigits : ')' ∉ Text.ofNat index := not_mem_ofNat (by decide)
    cases bigEndian <;> simp [hDigits]
  rw [intArguments?, hSplit, Text.cutOn?_append_cons hFree]
  have hIndex : ',' ∉ Text.ofNat index := not_mem_ofNat (by decide)
  simp [Text.cutOn?_append_cons hIndex, readIndex?_ofNat h, byteOrder?_written]

/-! ## The end of a replacement -/

/-- A quote is passed over with the text after it up to the next quote, unless that text begins with
a closing parenthesis. -/
theorem cutMark?_quoted {t : Text} (hFree : '"' ∉ t) (hOpen : t.head? ≠ some ')') (rest : Text) :
    Text.cutMark? ['"', ')'] ('"' :: (t ++ '"' :: rest)) =
      (Text.cutMark? ['"', ')'] ('"' :: rest)).map
        fun (head, tail) => ('"' :: (t ++ head), tail) := by
  have hNext : Text.after? ['"', ')'] ('"' :: (t ++ '"' :: rest)) = none := by
    cases t with
    | nil => rfl
    | cons c t =>
      have hc : ')' ≠ c := fun hSame => hOpen (by rw [hSame]; rfl)
      simp [Text.after?, hc]
  rw [Text.cutMark?, hNext, Text.cutMark?_append hFree, Option.map_map]
  rfl

theorem cutMark?_closed (rest : Text) :
    Text.cutMark? ['"', ')'] ('"' :: ')' :: rest) = some ([], rest) := rfl

theorem cutMark?_comma (rest : Text) : Text.cutMark? ['"', ')'] ('"' :: ',' :: rest) =
    (Text.cutMark? ['"', ')'] rest).map fun (head, tail) => ('"' :: ',' :: head, tail) := by
  have hFirst : Text.cutMark? ['"', ')'] ('"' :: ',' :: rest) =
      (Text.cutMark? ['"', ')'] (',' :: rest)).map fun (head, tail) => ('"' :: head, tail) := rfl
  have hSecond : Text.cutMark? ['"', ')'] (',' :: rest) =
      (Text.cutMark? ['"', ')'] rest).map fun (head, tail) => (',' :: head, tail) := rfl
  rw [hFirst, hSecond, Option.map_map]
  rfl

def substBody (index : Nat) (old new : Text) : Text :=
  Text.ofNat index ++ ',' :: '"' :: (old ++ '"' :: ',' :: '"' :: new)

theorem quote_not_mem_lead (index : Nat) : '"' ∉ Text.ofNat index ++ [','] := by
  have hDigits : '"' ∉ Text.ofNat index := not_mem_ofNat (by decide)
  simp [hDigits]

theorem cutMark?_substBody (hOld : '"' ∉ old) (hNew : '"' ∉ new) (hOldOpen : old.head? ≠ some ')')
    (hNewOpen : new.head? ≠ some ')') (rest : Text) :
    Text.cutMark? ['"', ')'] (substBody index old new ++ '"' :: ')' :: rest) =
      some (substBody index old new, rest) := by
  have hSplit : substBody index old new ++ '"' :: ')' :: rest =
      (Text.ofNat index ++ [',']) ++
        '"' :: (old ++ '"' :: ',' :: '"' :: (new ++ '"' :: ')' :: rest)) := by
    simp [substBody]
  rw [hSplit, Text.cutMark?_append (quote_not_mem_lead index), cutMark?_quoted hOld hOldOpen,
    cutMark?_comma, cutMark?_quoted hNew hNewOpen, cutMark?_closed]
  simp [substBody]

/-- Where a text begins with a closing parenthesis, the mark is found at the quote that opens it. -/
theorem exists_cutMark?_of_closesEarly (hOld : '"' ∉ old)
    (hEarly : (Segment.subst index old new).closesEarly = true) (rest : Text) :
    ∃ inner tail, (inner = [] ∨ inner = '"' :: (old ++ ['"', ','])) ∧
      Text.cutMark? ['"', ')'] (substBody index old new ++ '"' :: ')' :: rest) =
        some (Text.ofNat index ++ ',' :: inner, tail) := by
  have hSplit : substBody index old new ++ '"' :: ')' :: rest =
      (Text.ofNat index ++ [',']) ++
        '"' :: (old ++ '"' :: ',' :: '"' :: (new ++ '"' :: ')' :: rest)) := by
    simp [substBody]
  rw [hSplit, Text.cutMark?_append (quote_not_mem_lead index)]
  by_cases hOldOpen : old.head? = some ')'
  · obtain ⟨old, rfl⟩ := List.head?_eq_some_iff.mp hOldOpen
    refine ⟨[], old ++ '"' :: ',' :: '"' :: (new ++ '"' :: ')' :: rest), .inl rfl, ?_⟩
    rw [List.cons_append, cutMark?_closed]
    simp
  · have hNewOpen : new.head? = some ')' := by
      simpa [Segment.closesEarly, hOldOpen] using hEarly
    obtain ⟨new, rfl⟩ := List.head?_eq_some_iff.mp hNewOpen
    refine ⟨_, new ++ '"' :: ')' :: rest, .inr rfl, ?_⟩
    rw [cutMark?_quoted hOld hOldOpen, cutMark?_comma, List.cons_append, cutMark?_closed]
    simp

theorem quoted?_written {t : Text} (h : '"' ∉ t) (rest : Text) :
    quoted? ('"' :: (t ++ '"' :: rest)) = some (t, rest) :=
  Text.cutOn?_append_cons h rest

theorem cutOn?_index (index : Nat) (t : Text) :
    Text.cutOn? ',' (Text.ofNat index ++ ',' :: t) = some (Text.ofNat index, t) :=
  Text.cutOn?_append_cons (not_mem_ofNat (by decide)) t

theorem substArguments?_written (h : index ≤ groupLimit) (hOld : '"' ∉ old) (hNew : '"' ∉ new)
    (hOldOpen : old.head? ≠ some ')') (hNewOpen : new.head? ≠ some ')') (rest : Text) :
    substArguments? (substBody index old new ++ '"' :: ')' :: rest) =
      some (.subst index old new, rest) := by
  have hQuote (t : Text) : Text.trimStart ('"' :: t) = '"' :: t := rfl
  have hComma (t : Text) : Text.trimStart (',' :: t) = ',' :: t := rfl
  rw [substArguments?, cutMark?_substBody hOld hNew hOldOpen hNewOpen]
  simp [substBody, cutOn?_index, readIndex?_ofNat h, hQuote, quoted?_written hOld, hComma,
    Text.after?, quoted?_written hNew]

theorem substArguments?_of_closesEarly (h : index ≤ groupLimit) (hOld : '"' ∉ old)
    (hEarly : (Segment.subst index old new).closesEarly = true) (rest : Text) :
    substArguments? (substBody index old new ++ '"' :: ')' :: rest) = none := by
  have hQuote (t : Text) : Text.trimStart ('"' :: t) = '"' :: t := rfl
  have hComma (t : Text) : Text.trimStart (',' :: t) = ',' :: t := rfl
  have hOpen : quoted? ['"'] = none := rfl
  obtain ⟨inner, tail, hInner, hCut⟩ := exists_cutMark?_of_closesEarly hOld hEarly rest
  rw [substArguments?, hCut]
  rcases hInner with rfl | rfl
  · simp [cutOn?_index, readIndex?_ofNat h, hQuote, hOpen]
  · simp [cutOn?_index, readIndex?_ofNat h, hQuote, quoted?_written hOld, hComma, Text.after?,
      hOpen]

/-! ## Placeholders -/

theorem write_eq_cons (h : s.isLiteral = false) : ∃ body, s.write = '$' :: body := by
  cases s with
  | literal text => cases h
  | _ => exact ⟨_, rfl⟩

theorem digitChar_isDigit : ∀ n : Fin 10, (Nat.digitChar n).isDigit = true ∧
    Text.digitValue (Nat.digitChar n) = n := by decide

theorem placeholder?_written {body : Text} (hWrite : s.write = '$' :: body) (h : s.IsWritable)
    (hKind : s.isLiteral = false) (rest : Text) :
    placeholder? (body ++ rest) = if s.closesEarly then none else some (s, rest) := by
  cases s with
  | literal text => cases hKind
  | group index =>
    cases hWrite
    have hIndex : index < 10 := Nat.lt_succ_of_le h
    obtain ⟨hDigit, hValue⟩ := digitChar_isDigit ⟨index, hIndex⟩
    rw [Text.ofNat, Nat.toDigits_of_lt_base hIndex]
    simp [placeholder?, hDigit, hValue, Segment.closesEarly]
  | printable index =>
    cases hWrite
    simp [placeholder?, Text.after?, printableArguments?_written h, Segment.closesEarly]
  | subst index old new =>
    cases hWrite
    obtain ⟨hIndex, hOld, hNew⟩ := h
    have hArguments :
        placeholder? ("SUBST(".toList ++ (substBody index old new ++ '"' :: ')' :: rest)) =
        substArguments? (substBody index old new ++ '"' :: ')' :: rest) := by
      simp [placeholder?, Text.after?]
    have hSplit : "SUBST(".toList ++ (Text.ofNat index ++
          ',' :: '"' :: (old ++ '"' :: ',' :: '"' :: (new ++ ['"', ')']))) ++ rest =
        "SUBST(".toList ++ (substBody index old new ++ '"' :: ')' :: rest) := by
      simp [substBody]
    rw [hSplit, hArguments]
    split
    · rename_i hEarly
      exact substArguments?_of_closesEarly hIndex hOld hEarly rest
    · rename_i hEarly
      have hOpen : old.head? ≠ some ')' ∧ new.head? ≠ some ')' := by
        simpa [Segment.closesEarly] using hEarly
      exact substArguments?_written hIndex hOld hNew hOpen.1 hOpen.2 rest
  | int index bigEndian =>
    cases hWrite
    simp [placeholder?, Text.after?, intArguments?_written h, Segment.closesEarly]

/-! ## Reading -/

theorem parseFrom_free (hFree : '$' ∉ literal) (acc rest : Text) :
    parseFrom acc (literal ++ rest) = parseFrom (literal.reverse ++ acc) rest := by
  induction literal generalizing acc with
  | nil => rfl
  | cons c literal ih =>
    obtain ⟨hc, hLiteral⟩ := not_or.mp fun hOr => hFree (List.mem_cons.mpr hOr)
    rw [List.cons_append, parseFrom, if_neg (Ne.symm hc), ih hLiteral]
    simp

theorem parseFrom_of_some {t : Text} (h : placeholder? t = some (s, rest)) (acc : Text) :
    parseFrom acc ('$' :: t) = consLiteral acc.reverse (s :: parse rest) := by
  rw [parseFrom, if_pos rfl]
  split
  · rename_i hSome
    cases hSome.symm.trans h
    rfl
  · rename_i hNone
    cases hNone.symm.trans h

theorem parseFrom_of_none {t : Text} (h : placeholder? t = none) (acc : Text) :
    parseFrom acc ('$' :: t) = parseFrom ('$' :: acc) t := by
  rw [parseFrom, if_pos rfl]
  split
  · rename_i hSome
    cases hSome.symm.trans h
  · rfl

theorem consLiteral_of_ne_nil (h : literal ≠ []) (template : Template) :
    consLiteral literal template = .literal literal :: template := by
  rw [consLiteral, if_neg (by simpa using h)]

theorem consLiteral_inj {template template' : Template} :
    consLiteral literal template = consLiteral literal template' ↔ template = template' := by
  unfold consLiteral
  split
  · rfl
  · rw [List.cons.injEq, and_iff_right rfl]

theorem ne_consLiteral {acc text : Text} {segments : Template} (hAcc : '$' ∉ acc)
    (hKind : s.isLiteral = false) (hDollar : '$' ∈ text) :
    .literal text :: segments ≠ consLiteral acc.reverse (s :: template) := by
  intro hEq
  unfold consLiteral at hEq
  split at hEq
  · rw [← (List.cons.inj hEq).1] at hKind
    cases hKind
  · cases hEq
    exact hAcc (List.mem_reverse.mp hDollar)

theorem exists_literal_of_dollar {acc : Text} (h : '$' ∈ acc) (t : Text) :
    ∃ text segments, parseFrom acc t = .literal text :: segments ∧ '$' ∈ text := by
  have hReverse {acc : Text} (hIn : '$' ∈ acc) (segments : Template) :
      ∃ text segments', consLiteral acc.reverse segments = .literal text :: segments' ∧
        '$' ∈ text := by
    have hMem : '$' ∈ acc.reverse := List.mem_reverse.mpr hIn
    exact ⟨acc.reverse, segments, consLiteral_of_ne_nil (List.ne_nil_of_mem hMem) segments, hMem⟩
  fun_induction parseFrom acc t with
  | case1 acc => exact hReverse h []
  | case2 acc rest segment after hFound => exact hReverse h _
  | case3 acc rest hNone ih => exact ih List.mem_cons_self
  | case4 acc c rest hc ih => exact ih (List.mem_cons_of_mem c h)

/-- A written list that comes after some literal text is read back as it is, unless a placeholder in
it closes early. -/
theorem parseFrom_write_iff {template : Template} (h : template.IsWritable) {acc : Text}
    (hAcc : '$' ∉ acc) (hApart : acc = [] ∨ ∀ s ∈ template.head?, s.isLiteral = false) :
    parseFrom acc template.write = consLiteral acc.reverse template ↔
      ∀ s ∈ template, s.closesEarly = false := by
  induction template generalizing acc with
  | nil => simp [write, parseFrom]
  | cons s template ih =>
    obtain ⟨hSegment, hSegments⟩ := List.forall_mem_cons.mp h.segments
    have hTail : IsWritable template := ⟨hSegments, h.apart.tail⟩
    have hWrite : write (s :: template) = s.write ++ write template := List.flatMap_cons
    rw [hWrite, List.forall_mem_cons]
    cases hKind : s.isLiteral with
    | true =>
      obtain rfl : acc = [] := by
        rcases hApart with hNil | hPlaceholder
        · exact hNil
        · exact absurd (hKind.symm.trans (hPlaceholder s rfl)) (by decide)
      cases s with
      | literal text =>
        obtain ⟨hNonempty, hFree⟩ := hSegment
        have hNext : ∀ next ∈ template.head?, next.isLiteral = false := by
          intro next hIn
          exact (h.apart.rel_head? hIn).resolve_left (by simp [Segment.isLiteral])
        have hReverse : '$' ∉ text.reverse := fun hIn => hFree (List.mem_reverse.mp hIn)
        have hRest := ih hTail hReverse (.inr hNext)
        rw [Segment.write, parseFrom_free hFree, List.append_nil]
        rw [List.reverse_reverse, consLiteral_of_ne_nil hNonempty] at hRest
        exact hRest.trans (and_iff_right rfl).symm
      | _ => cases hKind
    | false =>
      obtain ⟨body, hBody⟩ := write_eq_cons hKind
      have hPlaceholder := placeholder?_written hBody hSegment hKind (write template)
      rw [hBody, List.cons_append]
      cases hEarly : s.closesEarly with
      | true =>
        rw [hEarly, if_pos rfl] at hPlaceholder
        rw [parseFrom_of_none hPlaceholder]
        obtain ⟨text, segments, hParse, hDollar⟩ :=
          exists_literal_of_dollar List.mem_cons_self (body ++ write template)
        refine iff_of_false (fun hEq => ?_) (by simp)
        rw [hParse] at hEq
        exact ne_consLiteral hAcc hKind hDollar hEq
      | false =>
        rw [hEarly, if_neg (by decide)] at hPlaceholder
        rw [parseFrom_of_some hPlaceholder, consLiteral_inj, List.cons.injEq, and_iff_right rfl,
          and_iff_right rfl]
        exact ih hTail List.not_mem_nil (.inl rfl)

/-- Writing a list of segments and reading it gives the list back, unless a text of a replacement
begins with a closing parenthesis. -/
theorem parse_write_iff (template : Template) (h : template.IsWritable) :
    parse template.write = template ↔
      ∀ index old new, .subst index old new ∈ template →
        old.head? ≠ some ')' ∧ new.head? ≠ some ')' := by
  have hRead : parse template.write = template ↔ ∀ s ∈ template, s.closesEarly = false :=
    parseFrom_write_iff h List.not_mem_nil (.inl rfl)
  rw [hRead]
  constructor
  · intro hAll index old new hIn
    simpa [Segment.closesEarly] using hAll _ hIn
  · intro hAll s hIn
    cases s with
    | subst index old new => simpa [Segment.closesEarly] using hAll index old new hIn
    | _ => rfl

/-- All kinds of placeholders, two of them in a row and one with a digit behind it. -/
theorem parse_write_of_mixed :
    parse "v$SUBST(1,\"_)\",\".\")$I(2,\">\")2$P(10)$1".toList =
      [.literal ['v'], .subst 1 ['_', ')'] ['.'], .int 2 true, .literal ['2'], .printable 10,
        .group 1] := by
  have hWritable : IsWritable
      [.literal ['v'], .subst 1 ['_', ')'] ['.'], .int 2 true, .literal ['2'], .printable 10,
        .group 1] := by
    constructor
    · simp [Segment.IsWritable, groupLimit]
    · decide
  refine (parse_write_iff _ hWritable).mpr fun index old new hIn => ?_
  simp only [List.mem_cons, reduceCtorEq, Segment.subst.injEq, List.not_mem_nil, or_false,
    false_or] at hIn
  obtain ⟨_, rfl, rfl⟩ := hIn
  decide

/-- A closing parenthesis is to be replaced. -/
theorem not_written_replacement_read_back :
    ¬ ∀ template : Template, template.IsWritable → parse template.write = template := by
  intro h
  have hWritable : IsWritable [.subst 1 [')'] [']']] := by
    constructor
    · simp [Segment.IsWritable, groupLimit]
    · decide
  have hNone := (parseFrom_write_iff hWritable List.not_mem_nil (.inl rfl)).mp (h _ hWritable)
  exact absurd (hNone _ List.mem_cons_self) (by decide)

end Template
end ServiceProbe
