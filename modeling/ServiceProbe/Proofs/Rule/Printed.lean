import ServiceProbe.Proofs.Text.Spacing
import ServiceProbe.Rule

/-! # Printed rules

The line of a rule is printed from a definition that holds texts alone: the pattern with its flags,
and the text of every field. A field is printed between slashes and the pattern between bars.
Whatever the gaps, the order of the flags and the marks of platform names, the line is compiled to
the rule of the definition. -/

namespace ServiceProbe
set_option autoImplicit false

open Text (IsWord IsTight IsPadded Spaced Headed)

namespace Field

def tag : Field → Text
  | product => ['p']
  | version => ['v']
  | info => ['i']
  | hostname => ['h']
  | os => ['o']
  | deviceType => ['d']
  | cpe => "cpe:".toList

def IsMark (field : Field) (mark : Text) : Prop := mark = [] ∨ field = cpe ∧ mark = ['a']

def Printed (field : Field × Text) (t : Text) : Prop :=
  ∃ mark, field.1.IsMark mark ∧ t = field.1.tag ++ ('/' :: field.2 ++ '/' :: mark)

theorem isWord_tag (field : Field) : IsWord field.tag := by
  cases field <;> decide

theorem IsMark.isWord {field : Field} {mark : Text} (h : field.IsMark mark) {d : Char}
    (hd : Text.isBlank d = false) : IsWord (d :: mark) := by
  refine ⟨List.cons_ne_nil _ _, List.forall_mem_cons.mpr ⟨hd, ?_⟩⟩
  rcases h with rfl | ⟨_, rfl⟩
  · exact List.forall_mem_nil _
  · exact List.forall_mem_singleton.mpr rfl

theorem Printed.isTight {field : Field × Text} {t : Text} (h : Printed field t) : IsTight t := by
  obtain ⟨mark, hMark, rfl⟩ := h
  have hEnd : IsWord ('/' :: mark) := hMark.isWord rfl
  exact (isWord_tag field.1).isTight.between hEnd.isTight _

theorem Printed.not_mem {field : Field × Text} {t : Text} (h : Printed field t)
    (hFree : '\n' ∉ field.2) : '\n' ∉ t := by
  obtain ⟨mark, hMark, rfl⟩ := h
  have hWord : IsWord ('/' :: mark) := hMark.isWord rfl
  have hEnd : '\n' ∉ mark := fun hIn => hWord.free (List.mem_cons_of_mem _ hIn)
  simp [(isWord_tag field.1).free, hFree, hEnd]

end Field

namespace VersionInfo

theorem tag?_of_tag (field : Field) {d : Char} (hd : isDelimiter d = true) (rest : Text) :
    tag? (field.tag ++ d :: rest) = some (field, d :: rest) := by
  cases field <;> simp [tag?, Field.tag, Text.after?, hd, Field.ofTag?]

theorem dropMark_of_isMark {field : Field} {mark rest : Text} (hMark : field.IsMark mark)
    (hRest : ∀ c ∈ rest.head?, Text.isBlank c = true) : dropMark field (mark ++ rest) = rest := by
  rcases hMark with rfl | ⟨rfl, rfl⟩
  -- what follows an omitted mark is a blank or nothing, and is not taken for one
  · rw [List.nil_append]
    unfold dropMark
    split
    · exact absurd (hRest 'a' rfl) (by decide)
    · rfl
  · rfl

theorem parseFrom_cons (c : Char) (rest : Text) : parseFrom (c :: rest) =
    match tag? (c :: rest) with
    | none => parseFrom (Text.word rest).2.trimStart
    | some (field, body) =>
      match Text.delimited? body with
      | none => []
      | some (inside, after) =>
        (field, Template.parse inside) :: parseFrom (dropMark field after).trimStart := by
  -- the definition also keeps what its cases are taken from, which is needed for its termination
  rw [parseFrom]
  split
  · rename_i hTag
    simp only [hTag]
  · rename_i hTag
    split <;> rename_i hBody <;> simp only [hTag, hBody]

theorem parseFrom_of_tag? {t body inside after : Text} {field : Field}
    (hTag : tag? t = some (field, body)) (hBody : Text.delimited? body = some (inside, after)) :
    parseFrom t = (field, Template.parse inside) :: parseFrom (dropMark field after).trimStart := by
  cases t with
  | nil => cases hTag
  | cons c rest => simp only [parseFrom_cons, hTag, hBody]

theorem parseFrom_of_delimited {field : Field} {d : Char} {inside mark rest : Text}
    (hd : isDelimiter d = true) (hFree : d ∉ inside) (hMark : field.IsMark mark)
    (hRest : ∀ c ∈ rest.head?, Text.isBlank c = true) :
    parseFrom (field.tag ++ (d :: inside ++ d :: mark) ++ rest) =
      (field, Template.parse inside) :: parseFrom rest.trimStart := by
  have hSplit : field.tag ++ (d :: inside ++ d :: mark) ++ rest =
      field.tag ++ d :: (inside ++ d :: (mark ++ rest)) := by simp
  rw [hSplit, parseFrom_of_tag? (tag?_of_tag field hd _) (Text.delimited?_of_not_mem hFree _),
    dropMark_of_isMark hMark hRest]

theorem parseFrom_of_printed {field : Field × Text} {t rest : Text} (h : Field.Printed field t)
    (hFree : '/' ∉ field.2) (hRest : ∀ c ∈ rest.head?, Text.isBlank c = true) :
    parseFrom (t ++ rest) = (field.1, Template.parse field.2) :: parseFrom rest.trimStart := by
  obtain ⟨mark, hMark, rfl⟩ := h
  exact parseFrom_of_delimited (by decide) hFree hMark hRest

/-- The fields after the first token of a line are all that is read from the rest of the line. -/
theorem parse_of_spaced {fields : List ((Field × Text) × Text)}
    (hPrinted : ∀ field ∈ fields, Field.Printed field.1 field.2)
    (hFree : ∀ field ∈ fields, '/' ∉ field.1.2)
    {tail : Text} (h : (fields.map Prod.snd = [] ∧ tail = []) ∨
      ∃ rest, IsPadded rest tail ∧ Spaced (fields.map Prod.snd) rest) :
    parse tail = fields.map fun field => (field.1.1, Template.parse field.1.2) := by
  induction fields generalizing tail with
  | nil =>
    rcases h with ⟨_, rfl⟩ | ⟨rest, _, hRest⟩
    · simp [parse, Text.trimStart, parseFrom]
    · cases hRest
  | cons field fields ih =>
    obtain ⟨hField, hFields⟩ := List.forall_mem_cons.mp hPrinted
    obtain ⟨hSlash, hSlashes⟩ := List.forall_mem_cons.mp hFree
    obtain ⟨hNil, _⟩ | ⟨rest, hTail, hRest⟩ := h
    · cases hNil
    · have hTight : ∀ t ∈ (field :: fields).map Prod.snd, IsTight t := by
        intro t hIn
        obtain ⟨printed, hMem, rfl⟩ := List.mem_map.mp hIn
        exact (hPrinted printed hMem).isTight
      rw [parse, hTail.trimStart (hRest.isTight hTight)]
      obtain ⟨after, rfl, hBlank, hAfter⟩ := hRest.exists_tail
      rw [parseFrom_of_printed hField hSlash hBlank, List.map_cons]
      exact congrArg (_ :: ·) (ih hFields hSlashes hAfter)

end VersionInfo

namespace Rule

structure Definition where
  kind : RuleKind
  service : Text
  pattern : Text
  flags : PatternFlags
  fields : List (Field × Text)
  service_isWord : IsWord service
  pattern_free : '|' ∉ pattern ∧ '\n' ∉ pattern
  accepted : (Pattern.compile? pattern flags).isSome = true
  fields_free : ∀ field ∈ fields, '/' ∉ field.2 ∧ '\n' ∉ field.2

def keyword : RuleKind → Text
  | .hard => "match".toList
  | .soft => "softmatch".toList

structure SpellsFlags (flags : PatternFlags) (t : Text) : Prop where
  letters : ∀ c ∈ t, c = 'i' ∨ c = 's'
  ignoreCase : flags.ignoreCase = t.contains 'i'
  dotMatchesNewLine : flags.dotMatchesNewLine = t.contains 's'

namespace Definition

def rule (d : Definition) : Rule where
  service := String.ofList d.service
  kind := d.kind
  pattern := (Pattern.compile? d.pattern d.flags).get d.accepted
  fields := d.fields.map fun field => (field.1, Template.parse field.2)

/-- The pattern between bars, with a letter in front and the flags behind it. -/
def body (d : Definition) (flags : Text) : Text := 'm' :: '|' :: (d.pattern ++ '|' :: flags)

def Printed (d : Definition) (line : Text) : Prop :=
  ∃ (flags : Text) (fields : List ((Field × Text) × Text)), SpellsFlags d.flags flags ∧
    d.fields = fields.map Prod.fst ∧ (∀ field ∈ fields, Field.Printed field.1 field.2) ∧
    Spaced (keyword d.kind :: d.service :: d.body flags :: fields.map Prod.snd) line

end Definition

theorem exists_spellsFlags : ∀ flags : PatternFlags, ∃ t, SpellsFlags flags t
  | ⟨false, false⟩ => ⟨[], by simp, rfl, rfl⟩
  | ⟨true, false⟩ => ⟨['i'], by simp, rfl, rfl⟩
  | ⟨false, true⟩ => ⟨['s'], by simp, rfl, rfl⟩
  | ⟨true, true⟩ => ⟨['i', 's'], by simp, rfl, rfl⟩

theorem readKind_keyword (kind : RuleKind) : readKind (keyword kind) = .ok kind := by
  cases kind <;> rfl

theorem isWord_keyword (kind : RuleKind) : IsWord (keyword kind) := by
  cases kind <;> decide

theorem foldlM_readFlag (line : Text) {t : Text} (h : ∀ c ∈ t, c = 'i' ∨ c = 's') (a b : Bool) :
    t.foldlM (readFlag line) ⟨a, b⟩ = .ok ⟨a || t.contains 'i', b || t.contains 's'⟩ := by
  induction t generalizing a b with
  | nil => simp [pure, Except.pure]
  | cons c t ih =>
    obtain ⟨hc, ht⟩ := List.forall_mem_cons.mp h
    rw [List.foldlM_cons]
    rcases hc with rfl | rfl
    · exact (ih ht true b).trans (by simp)
    · exact (ih ht a true).trans (by simp)

theorem SpellsFlags.solid {flags : PatternFlags} {t : Text} (h : SpellsFlags flags t) :
    ∀ c ∈ t, Text.isBlank c = false := by
  intro c hc
  rcases h.letters c hc with rfl | rfl <;> decide

theorem SpellsFlags.readFlags {flags : PatternFlags} {t : Text} (h : SpellsFlags flags t)
    (line : Text) : readFlags line t = .ok flags := by
  rw [Rule.readFlags, foldlM_readFlag line h.letters, Bool.false_or, Bool.false_or, ← h.ignoreCase,
    ← h.dotMatchesNewLine]

/-- The parts that are cut off a line one after the other. -/
structure IsCut (kind : RuleKind) (service pattern : Text) (flags : PatternFlags) (info t : Text)
    (afterWord afterService body afterPattern : Text) : Prop where
  cutWord : Text.cutAt? Text.isBlank t = some (keyword kind, afterWord)
  cutService : Text.cutAt? Text.isBlank afterWord.trimStart = some (service, afterService)
  passMark : Text.after? ['m'] afterService.trimStart = some body
  cutPattern : Text.delimited? body = some (pattern, afterPattern)
  spellsFlags : SpellsFlags flags (Text.word afterPattern).1
  leaves : (Text.word afterPattern).2 = info

theorem compile_of_isCut {kind : RuleKind} {flags : PatternFlags} {compiled : Pattern}
    {line service pattern info afterWord afterService body afterPattern : Text}
    (h : IsCut kind service pattern flags info line.trim afterWord afterService body afterPattern)
    (hCompiled : Pattern.compile? pattern flags = some compiled) :
    compile line = .ok ⟨String.ofList service, kind, compiled, VersionInfo.parse info⟩ := by
  unfold compile
  simp only [h.cutWord, h.cutService, h.passMark, h.cutPattern, orFault, pure, Except.pure, bind,
    Except.bind, readKind_keyword, h.spellsFlags.readFlags, hCompiled, h.leaves]

namespace Definition

variable {d : Definition} {flags line : Text}

theorem isTight_body (hFlags : SpellsFlags d.flags flags) : IsTight (d.body flags) := by
  have hStart : IsWord ['m'] := by decide
  have hEnd : IsWord ('|' :: flags) :=
    ⟨List.cons_ne_nil _ _, List.forall_mem_cons.mpr ⟨by decide, hFlags.solid⟩⟩
  exact hStart.isTight.between hEnd.isTight ('|' :: d.pattern)

theorem tokens_of_printed {fields : List ((Field × Text) × Text)}
    (hFlags : SpellsFlags d.flags flags) (hFields : d.fields = fields.map Prod.fst)
    (hPrinted : ∀ field ∈ fields, Field.Printed field.1 field.2) :
    ∀ t ∈ d.service :: d.body flags :: fields.map Prod.snd, IsTight t ∧ '\n' ∉ t := by
  have hFlagsFree : '\n' ∉ flags := fun hIn => absurd (hFlags.solid _ hIn) (by decide)
  refine List.forall_mem_cons.mpr ⟨⟨d.service_isWord.isTight, d.service_isWord.free⟩, ?_⟩
  refine List.forall_mem_cons.mpr ⟨⟨isTight_body hFlags, ?_⟩, fun t hIn => ?_⟩
  · simp [body, d.pattern_free.2, hFlagsFree]
  · obtain ⟨field, hField, rfl⟩ := List.mem_map.mp hIn
    have hFree := d.fields_free field.1 (hFields ▸ List.mem_map_of_mem hField)
    exact ⟨(hPrinted field hField).isTight, (hPrinted field hField).not_mem hFree.2⟩

theorem headed_of_printed (h : d.Printed line) : Headed (keyword d.kind) line := by
  obtain ⟨flags, fields, hFlags, hFields, hPrinted, hLine⟩ := h
  exact hLine.headed (isWord_keyword d.kind) (tokens_of_printed hFlags hFields hPrinted)

theorem exists_printed (d : Definition) : ∃ line, d.Printed line := by
  obtain ⟨flags, hFlags⟩ := exists_spellsFlags d.flags
  let fields := d.fields.map fun field => (field, field.1.tag ++ ('/' :: field.2 ++ ['/']))
  obtain ⟨line, hLine⟩ := Spaced.exists_of_ne_nil
    (List.cons_ne_nil (keyword d.kind) (d.service :: d.body flags :: fields.map Prod.snd))
  have hFields : d.fields = fields.map Prod.fst := by simp [fields, Function.comp_def]
  refine ⟨line, flags, fields, hFlags, hFields, fun field hField => ?_, hLine⟩
  obtain ⟨source, _, rfl⟩ := List.mem_map.mp hField
  exact ⟨[], Or.inl rfl, rfl⟩

theorem compile_of_printed (h : d.Printed line) : compile line = .ok d.rule := by
  have hTrim := (headed_of_printed h).isTight.trim
  obtain ⟨flags, fields, hFlags, hFields, hPrinted, hLine⟩ := h
  obtain ⟨hService, hTokens⟩ := List.forall_mem_cons.mp (tokens_of_printed hFlags hFields hPrinted)
  have hTight : ∀ t ∈ d.body flags :: fields.map Prod.snd, IsTight t := fun t ht => (hTokens t ht).1
  obtain ⟨afterKind, paddedKind, hCutKind, hPadKind, hAfterKind⟩ :=
    hLine.cutAt?_isBlank (isWord_keyword d.kind)
  obtain ⟨afterService, paddedService, hCutService, hPadService, hAfterService⟩ :=
    hAfterKind.cutAt?_isBlank d.service_isWord
  have hTrimKind := hPadKind.trimStart
    (hAfterKind.isTight (List.forall_mem_cons.mpr ⟨hService.1, hTight⟩))
  have hTrimService := hPadService.trimStart (hAfterService.isTight hTight)
  obtain ⟨tail, rfl, hBlank, hTail⟩ := hAfterService.exists_tail
  have hBody : d.body flags ++ tail = 'm' :: '|' :: (d.pattern ++ '|' :: (flags ++ tail)) := by
    simp [body]
  have hFlagsCut : Text.word (flags ++ tail) = (flags, tail) :=
    Text.word_append_of_solid hFlags.solid hBlank
  have hPattern : Pattern.compile? d.pattern d.flags = some d.rule.pattern :=
    (Option.some_get d.accepted).symm
  have hInfo : VersionInfo.parse tail = d.rule.fields := by
    rw [VersionInfo.parse_of_spaced hPrinted ?_ hTail, rule, hFields, List.map_map]
    · rfl
    · intro field hField
      exact (d.fields_free field.1 (hFields ▸ List.mem_map_of_mem hField)).1
  have hCut : IsCut d.kind d.service d.pattern d.flags tail line.trim paddedKind paddedService
      ('|' :: (d.pattern ++ '|' :: (flags ++ tail))) (flags ++ tail) := by
    constructor
    · rw [hTrim]
      exact hCutKind
    · rw [hTrimKind]
      exact hCutService
    · rw [hTrimService, hBody]
      rfl
    · exact Text.delimited?_of_not_mem d.pattern_free.1 _
    · rw [hFlagsCut]
      exact hFlags
    · rw [hFlagsCut]
  rw [compile_of_isCut hCut hPattern, hInfo]
  rfl

end Definition
end Rule
end ServiceProbe
