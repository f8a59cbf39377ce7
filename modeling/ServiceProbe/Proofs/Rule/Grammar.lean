import ServiceProbe.Proofs.Rule.Printed
import ServiceProbe.Proofs.Text.Parts
import ServiceProbe.Proofs.Text.Words

/-! # The language of rule lines

A line is a rule exactly when it is put together as the grammar says and its pattern is one. The
grammar names no reader: it says which texts stand one after the other on the line. What follows the
flags may be any text. -/

namespace ServiceProbe
set_option autoImplicit false

namespace Text

def IsSpace (t : Text) : Prop := t ≠ [] ∧ ∀ c ∈ t, isBlank c = true

theorem exists_blanks_trimStart (t : Text) :
    ∃ blanks : Text, (∀ c ∈ blanks, isBlank c = true) ∧ t = blanks ++ t.trimStart :=
  ⟨t.takeWhile isBlank, fun _ hc => List.mem_takeWhile_imp hc, List.takeWhile_append_dropWhile.symm⟩

theorem trimStart_blanks_append {blanks : Text} (h : ∀ c ∈ blanks, isBlank c = true) {c : Char}
    (hc : isBlank c = false) (rest : Text) : trimStart (blanks ++ c :: rest) = c :: rest := by
  rw [trimStart_append_of_blank h, trimStart, List.dropWhile_cons_of_neg (by simp [hc])]

end Text

namespace Rule

open Text (IsWord IsSpace)

variable {line word t : Text} {kind : RuleKind} {flags : PatternFlags} {rule : Rule}

/-- A line without the blanks around it, by its parts. The delimiter may be any character that the
pattern does not hold, and the version information is nothing or begins with a blank. -/
inductive IsComposed (kind : RuleKind) (service pattern : Text) (flags : PatternFlags)
    (info : Text) : Text → Prop where
  | intro {gap gap' letters : Text} {delimiter : Char} (hGap : IsSpace gap)
      (hService : IsWord service) (hGap' : IsSpace gap') (hPattern : delimiter ∉ pattern)
      (hFlags : SpellsFlags flags letters) (hInfo : ∀ c ∈ info.head?, Text.isBlank c = true) :
      IsComposed kind service pattern flags info (keyword kind ++ (gap ++ (service ++ (gap' ++
        'm' :: delimiter :: (pattern ++ delimiter :: (letters ++ info))))))

/-! ## Single parts -/

theorem orFault_eq_ok_iff {α : Type} {fault : RuleFault} {o : Option α} {a : α} :
    orFault fault o = .ok a ↔ o = some a := by
  cases o <;> simp [orFault, pure, Except.pure, throw, throwThe, MonadExceptOf.throw]

theorem readKind_eq_ok_iff : readKind word = .ok kind ↔ word = keyword kind := by
  constructor
  · intro h
    unfold readKind at h
    split at h
    · rename_i hWord
      cases h
      exact hWord
    · split at h
      · rename_i hWord
        cases h
        exact hWord
      · cases h
  · rintro rfl
    exact readKind_keyword kind

theorem letters_of_foldlM {start : PatternFlags} (h : t.foldlM (readFlag line) start = .ok flags) :
    ∀ c ∈ t, c = 'i' ∨ c = 's' := by
  induction t generalizing start with
  | nil => simp
  | cons c t ih =>
    rw [List.foldlM_cons] at h
    obtain ⟨next, hFirst, hRest⟩ := exists_of_bind_eq_ok h
    refine List.forall_mem_cons.mpr ⟨?_, ih hRest⟩
    unfold readFlag at hFirst
    split at hFirst
    · rename_i hc
      exact .inl hc
    · split at hFirst
      · rename_i hc
        exact .inr hc
      · cases hFirst

theorem readFlags_eq_ok_iff : readFlags line t = .ok flags ↔ SpellsFlags flags t := by
  constructor
  · intro h
    have hLetters := letters_of_foldlM h
    rw [readFlags, foldlM_readFlag line hLetters, Bool.false_or, Bool.false_or] at h
    cases h
    exact ⟨hLetters, rfl, rfl⟩
  · intro h
    exact h.readFlags line

theorem parts_of_compile? {pattern : Text} {compiled : Pattern}
    (h : Pattern.compile? pattern flags = some compiled) :
    compiled.text = pattern ∧ compiled.flags = flags := by
  obtain ⟨_, _, rfl⟩ := Option.map_eq_some_iff.mp h
  exact ⟨rfl, rfl⟩

/-! ## Lines -/

variable {service pattern info afterWord afterService body afterPattern : Text}

theorem IsCut.isComposed
    (h : IsCut kind service pattern flags info t afterWord afterService body afterPattern) :
    IsComposed kind service pattern flags info t := by
  obtain ⟨space, hLine, hSpace, _⟩ := Text.cutAt?_eq_some_iff.mp h.cutWord
  obtain ⟨blanks, hBlanks, hAfterWord⟩ := Text.exists_blanks_trimStart afterWord
  obtain ⟨space', hStart, hSpace', hSolid⟩ := Text.cutAt?_eq_some_iff.mp h.cutService
  obtain ⟨blanks', hBlanks', hAfterService⟩ := Text.exists_blanks_trimStart afterService
  obtain ⟨delimiter, rfl, hFree⟩ := Text.delimited?_eq_some_iff.mp h.cutPattern
  have hNonempty : service ≠ [] := by
    -- the blanks in front of the service are gone, so it does not end where it begins
    rintro rfl
    have hHead := Text.head_of_trimStart hStart
    rw [hSpace'] at hHead
    cases hHead
  have hParts : t = keyword kind ++ ((space :: blanks) ++ (service ++ ((space' :: blanks') ++
      'm' :: delimiter :: (pattern ++ delimiter :: ((Text.word afterPattern).1 ++ info))))) := by
    rw [Text.after?_eq_some_iff.mp h.passMark] at hAfterService
    rw [hStart, hAfterService] at hAfterWord
    rw [hLine, hAfterWord, ← h.leaves, Text.word_append]
    simp
  rw [hParts]
  constructor
  · exact ⟨List.cons_ne_nil _ _, List.forall_mem_cons.mpr ⟨hSpace, hBlanks⟩⟩
  · exact ⟨hNonempty, hSolid⟩
  · exact ⟨List.cons_ne_nil _ _, List.forall_mem_cons.mpr ⟨hSpace', hBlanks'⟩⟩
  · exact hFree
  · exact h.spellsFlags
  · exact h.leaves ▸ Text.head_of_word afterPattern

theorem IsComposed.exists_isCut (h : IsComposed kind service pattern flags info t) :
    ∃ afterWord afterService body afterPattern,
      IsCut kind service pattern flags info t afterWord afterService body afterPattern := by
  obtain ⟨hGap, hService, hGap', hPattern, hFlags, hInfo⟩ := h
  rename_i gap gap' letters delimiter
  obtain ⟨space, blanks, rfl⟩ := List.exists_cons_of_ne_nil hGap.1
  obtain ⟨space', blanks', rfl⟩ := List.exists_cons_of_ne_nil hGap'.1
  obtain ⟨hSpace, hBlanks⟩ := List.forall_mem_cons.mp hGap.2
  obtain ⟨hSpace', hBlanks'⟩ := List.forall_mem_cons.mp hGap'.2
  obtain ⟨c, others, rfl⟩ := List.exists_cons_of_ne_nil hService.ne_nil
  have hLetters : Text.word (letters ++ info) = (letters, info) :=
    Text.word_append_of_solid hFlags.solid hInfo
  have hBlanksService := Text.trimStart_blanks_append hBlanks (hService.solid c List.mem_cons_self)
  have hBlanksMark : ∀ rest : Text, Text.trimStart (blanks' ++ 'm' :: rest) = 'm' :: rest :=
    Text.trimStart_blanks_append hBlanks' (by decide)
  let body := delimiter :: (pattern ++ delimiter :: (letters ++ info))
  refine ⟨blanks ++ (c :: others ++ ((space' :: blanks') ++ 'm' :: body)), blanks' ++ 'm' :: body,
    body, letters ++ info, ?_⟩
  constructor
  · exact Text.cutAt?_of_first (isWord_keyword kind).solid hSpace _
  · rw [List.cons_append, hBlanksService]
    exact Text.cutAt?_of_first hService.solid hSpace' _
  · rw [hBlanksMark]
    rfl
  · exact Text.delimited?_of_not_mem hPattern _
  · rw [hLetters]
    exact hFlags
  · rw [hLetters]

theorem IsComposed.unique {kind' : RuleKind} {service' pattern' info' : Text}
    {flags' : PatternFlags} (h : IsComposed kind service pattern flags info t)
    (h' : IsComposed kind' service' pattern' flags' info' t) :
    kind = kind' ∧ service = service' ∧ pattern = pattern' ∧ flags = flags' ∧ info = info' := by
  obtain ⟨_, _, _, _, hCut⟩ := h.exists_isCut
  obtain ⟨_, _, _, _, hCut'⟩ := h'.exists_isCut
  have hWord := hCut.cutWord.symm.trans hCut'.cutWord
  rw [Option.some.injEq, Prod.mk.injEq] at hWord
  obtain ⟨hKind, rfl⟩ := hWord
  have hService := hCut.cutService.symm.trans hCut'.cutService
  rw [Option.some.injEq, Prod.mk.injEq] at hService
  obtain ⟨rfl, rfl⟩ := hService
  cases hCut.passMark.symm.trans hCut'.passMark
  have hPattern := hCut.cutPattern.symm.trans hCut'.cutPattern
  rw [Option.some.injEq, Prod.mk.injEq] at hPattern
  obtain ⟨rfl, rfl⟩ := hPattern
  have hFlags := (hCut.spellsFlags.readFlags t).symm.trans (hCut'.spellsFlags.readFlags t)
  have hKinds := (readKind_keyword kind).symm.trans (hKind ▸ readKind_keyword kind')
  exact ⟨Except.ok.inj hKinds, rfl, rfl, Except.ok.inj hFlags, hCut.leaves.symm.trans hCut'.leaves⟩

/-! ## Compiling -/

theorem exists_isComposed_of_compile (h : compile line = .ok rule) :
    ∃ service pattern info, IsComposed rule.kind service pattern rule.pattern.flags info line.trim ∧
      Pattern.compile? pattern rule.pattern.flags = some rule.pattern ∧
      rule.service = String.ofList service ∧ rule.fields = VersionInfo.parse info := by
  obtain ⟨⟨word, afterWord⟩, hWord, h⟩ := exists_of_bind_eq_ok h
  obtain ⟨kind, hKind, h⟩ := exists_of_bind_eq_ok h
  obtain ⟨⟨service, afterService⟩, hService, h⟩ := exists_of_bind_eq_ok h
  obtain ⟨body, hBody, h⟩ := exists_of_bind_eq_ok h
  obtain ⟨⟨pattern, afterPattern⟩, hPattern, h⟩ := exists_of_bind_eq_ok h
  obtain ⟨flags, hFlags, h⟩ := exists_of_bind_eq_ok h
  obtain ⟨compiled, hCompiled, h⟩ := exists_of_bind_eq_ok h
  cases h
  simp only [orFault_eq_ok_iff] at hWord hService hBody hPattern hCompiled
  rw [readKind_eq_ok_iff] at hKind
  rw [readFlags_eq_ok_iff] at hFlags
  subst hKind
  obtain rfl := (parts_of_compile? hCompiled).2
  have hCut := IsCut.isComposed ⟨hWord, hService, hBody, hPattern, hFlags, rfl⟩
  exact ⟨service, pattern, _, hCut, hCompiled, rfl, rfl⟩

theorem compile_of_isComposed {compiled : Pattern}
    (h : IsComposed kind service pattern flags info line.trim)
    (hCompiled : Pattern.compile? pattern flags = some compiled) :
    compile line = .ok ⟨String.ofList service, kind, compiled, VersionInfo.parse info⟩ := by
  obtain ⟨_, _, _, _, hCut⟩ := h.exists_isCut
  exact compile_of_isCut hCut hCompiled

/-- A line is a rule exactly when it is put together as the grammar says and its pattern is one
under the flags that are spelled on it. The rule is then the one that the parts name, and a line
that is no rule is a parse error. -/
theorem compile_accepts_grammar (line : Text) :
    ((∃ rule, compile line = .ok rule) ↔ ∃ kind service pattern flags info,
        IsComposed kind service pattern flags info line.trim ∧
          (Pattern.compile? pattern flags).isSome = true) ∧
      (∀ rule kind service pattern flags info, compile line = .ok rule →
        IsComposed kind service pattern flags info line.trim →
          rule.kind = kind ∧ rule.service = String.ofList service ∧ rule.pattern.text = pattern ∧
            rule.pattern.flags = flags ∧ rule.fields = VersionInfo.parse info) ∧
      ∀ fault, compile line = .error fault → ∃ message, fault.toError = .parse message := by
  refine ⟨⟨?_, ?_⟩, ?_, fun fault _ => ⟨fault.message, rfl⟩⟩
  · rintro ⟨rule, h⟩
    obtain ⟨service, pattern, info, hComposed, hCompiled, _⟩ := exists_isComposed_of_compile h
    exact ⟨rule.kind, service, pattern, rule.pattern.flags, info, hComposed, by rw [hCompiled]; rfl⟩
  · rintro ⟨kind, service, pattern, flags, info, hComposed, hSome⟩
    obtain ⟨compiled, hCompiled⟩ := Option.isSome_iff_exists.mp hSome
    exact ⟨_, compile_of_isComposed hComposed hCompiled⟩
  · rintro rule kind service pattern flags info h hComposed
    obtain ⟨_, _, _, hOwn, hCompiled, hService, hFields⟩ := exists_isComposed_of_compile h
    obtain ⟨rfl, rfl, rfl, rfl, rfl⟩ := hOwn.unique hComposed
    exact ⟨rfl, hService, (parts_of_compile? hCompiled).1, rfl, hFields⟩

end Rule
end ServiceProbe
