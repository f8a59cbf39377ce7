import ServiceProbe.Proofs.Database.FirstWord
import ServiceProbe.Proofs.Database.Outcome
import ServiceProbe.Proofs.Probe.Rejection
import ServiceProbe.Proofs.Text.Parts

/-! # Warnings

A database that loads reports every line that it has no use for: at once where the line stands before
all headers, and otherwise when the block ends that the line belongs to. A block with a bad header is
reported as a whole. -/

namespace ServiceProbe.Database
set_option autoImplicit false

def strayWarning (x : Text × Nat) : Warning := .strayLine x.2 ((firstWord? x.1).getD [])

/-- The warnings for the directives before the first header line, each with the number of its line. -/
def strays (lines : List (Text × Nat)) : List Warning :=
  ((lines.filter fun x => isKept x.1 && !isExclude x.1).takeWhile fun x => !isHeader x.1).map
    strayWarning

/-- The warnings for a block: one if its header is bad, and otherwise one for every refused line. -/
def blockWarnings : List Text → List Warning
  | [] => []
  | header :: body =>
    match Probe.ofHeader header with
    | .error fault => [.droppedProbe fault]
    | .ok declared => (body.filterMap Probe.fault?).map (.skippedLine declared.name)

def isRuleLine (line : Text) : Bool :=
  firstWord? line == some "match".toList || firstWord? line == some "softmatch".toList

def keptOf (lines : List (Text × Nat)) : List Text := (lines.map Prod.fst).filter isKept

variable {lines : List (Text × Nat)} {line : Text} {number : Nat} {r s : Reading}

theorem filter_keptOf (lines : List (Text × Nat)) : (keptOf lines).filter (fun line => !isExclude line) =
    (lines.filter fun x => isKept x.1 && !isExclude x.1).map Prod.fst := by
  rw [keptOf, List.filter_filter, List.filter_map]
  simp only [Bool.and_comm, Function.comp_def]

theorem openBlock?_eq_none_iff : openBlock? (keptOf lines) = none ↔
    ∀ x ∈ lines.filter (fun x => isKept x.1 && !isExclude x.1), isHeader x.1 = false := by
  rw [openBlock?, List.getLast?_eq_none_iff, blocks, blocksOf_eq_nil_iff, filter_keptOf,
    List.forall_mem_map]

theorem strays_concat (lines : List (Text × Nat)) (x : Text × Nat) : strays (lines ++ [x]) =
    strays lines ++ if (openBlock? (keptOf lines)).isNone then strays [x] else [] := by
  unfold strays
  rw [List.filter_append]
  split
  · rename_i hNone
    have hAll := openBlock?_eq_none_iff.mp (Option.isNone_iff_eq_none.mp hNone)
    have hPass : ∀ y ∈ lines.filter (fun x => isKept x.1 && !isExclude x.1), (!isHeader y.1) = true := by
      intro y hy
      rw [hAll y hy]
      rfl
    rw [List.takeWhile_append_of_pos hPass, List.takeWhile_eq_self_iff.mpr hPass, List.map_append]
  · rename_i hSome
    rw [List.takeWhile_append, if_neg, List.append_nil]
    intro hLength
    apply hSome
    rw [Option.isNone_iff_eq_none, openBlock?_eq_none_iff]
    have hAll := List.takeWhile_eq_self_iff.mp ((List.takeWhile_prefix _).eq_of_length hLength)
    intro y hy
    simpa using hAll y hy

theorem strays_singleton (line : Text) (number : Nat) : strays [(line, number)] =
    if isKept line && !isExclude line && !isHeader line then [strayWarning (line, number)] else [] := by
  unfold strays
  rw [List.filter_singleton]
  cases isKept line <;> cases isExclude line <;> cases hHeader : isHeader line <;> simp [hHeader]

/-! ## Reading -/

theorem parts_of_settle {r s : Reading} {c : Registry × Option Error} (h : r.settle c = .ok s) :
    s.warnings = r.warnings ∧ s.block = r.block := by
  obtain ⟨registry, _ | e⟩ := c
  · cases h
    exact ⟨rfl, rfl⟩
  · cases h

theorem step_of_kept (r : Reading) (number : Nat) {line : Text} (h : isKept line = true) :
    r.step number line =
      if isExclude line then r.settle (r.registry.addExclude (Reading.excludeArgument line))
      else if isHeader line then r.close >>= fun closed => pure { closed with block := some [line] }
      else
        r.block.elim (pure (r.warn [.strayLine number ((firstWord? line).getD [])])) fun lines =>
          pure { r with block := some (lines ++ [line]) } := by
  unfold Reading.step isExclude isHeader
  rw [keyword?_of_kept h]
  cases hWord : firstWord? line with
  | none => simp [isKept, hWord] at h
  | some word =>
    simp only [beq_iff_eq, Option.some.injEq, Option.getD_some]
    cases r.block <;> rfl

theorem parts_of_close (h : r.close = .ok s)
    (hBlock : ∀ block, r.block = some block → ∃ header body, block = header :: body) :
    s.block = none ∧ s.warnings = r.warnings ++ r.block.toList.flatMap blockWarnings := by
  obtain ⟨registry, _ | block, warnings⟩ := r
  · cases h
    exact ⟨rfl, (List.append_nil _).symm⟩
  · obtain ⟨header, body, rfl⟩ := hBlock block rfl
    rw [Option.toList_some, List.flatMap_singleton, blockWarnings]
    simp only [Reading.close, Reading.flush] at h
    cases hHeader : Probe.ofHeader header with
    | error fault =>
      rw [Probe.compile, hHeader] at h
      cases h
      exact ⟨rfl, rfl⟩
    | ok declared =>
      rw [Probe.compile_of_header hHeader] at h
      obtain ⟨hWarnings, hOpen⟩ := parts_of_settle h
      refine ⟨hOpen, hWarnings.trans ?_⟩
      rw [Probe.putAll_eq]
      rfl

/-- What a reading has reported after some lines: the stray ones, and every block that has ended. -/
structure Reports (lines : List (Text × Nat)) (r : Reading) : Prop where
  block : r.block = openBlock? (keptOf lines)
  warnings : r.warnings = strays lines ++ (blocks (keptOf lines)).dropLast.flatMap blockWarnings

theorem keptOf_concat (lines : List (Text × Nat)) (line : Text) (number : Nat) :
    keptOf (lines ++ [(line, number)]) = keptOf lines ++ if isKept line then [line] else [] := by
  rw [keptOf, List.map_append, List.filter_append, List.map_singleton, List.filter_singleton, keptOf]
  cases isKept line <;> rfl

namespace Reports

theorem cons_of_block (h : Reports lines r) {block : List Text} (hBlock : r.block = some block) :
    ∃ header body, block = header :: body := by
  have hMem : block ∈ blocks (keptOf lines) := List.mem_of_getLast? (h.block.symm.trans hBlock)
  obtain ⟨header, body, hCons, _⟩ := header_of_mem_blocksOf hMem
  exact ⟨header, body, hCons⟩

theorem close (h : Reports lines r) (hClose : r.close = .ok s) :
    s.warnings = strays lines ++ (blocks (keptOf lines)).flatMap blockWarnings := by
  obtain ⟨_, hWarnings⟩ := parts_of_close hClose fun _ hBlock => h.cons_of_block hBlock
  rw [hWarnings, h.warnings, h.block, List.append_assoc, ← List.flatMap_append,
    dropLast_append_openBlock?]

theorem step_not_kept (h : Reports lines r) (hKept : isKept line = false) :
    Reports (lines ++ [(line, number)]) r := by
  obtain ⟨hBlock, hWarnings⟩ := h
  have hSame : keptOf (lines ++ [(line, number)]) = keptOf lines := by
    rw [keptOf_concat, hKept, if_neg Bool.false_ne_true, List.append_nil]
  have hStrays : strays (lines ++ [(line, number)]) = strays lines := by
    rw [strays_concat, strays_singleton, hKept]
    simp
  exact ⟨hBlock.trans (congrArg openBlock? hSame.symm), by rw [hWarnings, hSame, hStrays]⟩

theorem step_exclude (h : Reports lines r) (hExclude : isExclude line = true)
    (hWarnings : s.warnings = r.warnings) (hBlock : s.block = r.block) :
    Reports (lines ++ [(line, number)]) s := by
  have hKept : keptOf (lines ++ [(line, number)]) = keptOf lines ++ [line] := by
    rw [keptOf_concat, isKept_of_isExclude hExclude, if_pos rfl]
  have hBlocks : blocks (keptOf lines ++ [line]) = blocks (keptOf lines) :=
    blocks_concat_exclude _ hExclude
  have hStrays : strays (lines ++ [(line, number)]) = strays lines := by
    rw [strays_concat, strays_singleton, hExclude]
    simp
  constructor
  · rw [hBlock, h.block, hKept, openBlock?, openBlock?, hBlocks]
  · rw [hWarnings, h.warnings, hKept, hBlocks, hStrays]

theorem step_header (h : Reports lines r) (hHeader : isHeader line = true) (hClose : r.close = .ok s) :
    Reports (lines ++ [(line, number)]) { s with block := some [line] } := by
  have hKept : keptOf (lines ++ [(line, number)]) = keptOf lines ++ [line] := by
    rw [keptOf_concat, isKept_of_isHeader hHeader, if_pos rfl]
  have hBlocks : blocks (keptOf lines ++ [line]) = blocks (keptOf lines) ++ [[line]] :=
    blocks_concat_header _ (isExclude_of_isHeader hHeader) hHeader
  have hStrays : strays (lines ++ [(line, number)]) = strays lines := by
    rw [strays_concat, strays_singleton, hHeader]
    simp
  constructor
  · rw [hKept, openBlock?, hBlocks, List.getLast?_concat]
  · have hAll := h.close hClose
    rw [hKept, hBlocks, hStrays, List.dropLast_concat]
    exact hAll

theorem step_body (h : Reports lines r) (hKept : isKept line = true)
    (hExclude : isExclude line = false) (hHeader : isHeader line = false) {body : List Text}
    (hOpen : r.block = some body) :
    Reports (lines ++ [(line, number)]) { r with block := some (body ++ [line]) } := by
  have hOpen : openBlock? (keptOf lines) = some body := h.block.symm.trans hOpen
  have hKept : keptOf (lines ++ [(line, number)]) = keptOf lines ++ [line] := by
    rw [keptOf_concat, hKept, if_pos rfl]
  have hBlocks : blocks (keptOf lines ++ [line]) =
      (blocks (keptOf lines)).dropLast ++ [body ++ [line]] := by
    rw [blocks_concat_body _ hExclude hHeader, hOpen]
    rfl
  have hStrays : strays (lines ++ [(line, number)]) = strays lines := by
    rw [strays_concat, hOpen]
    exact List.append_nil _
  constructor
  · rw [hKept, openBlock?, hBlocks, List.getLast?_concat]
  · rw [hKept, hBlocks, hStrays, List.dropLast_concat]
    exact h.warnings

theorem step_stray (h : Reports lines r) (hKept : isKept line = true)
    (hExclude : isExclude line = false) (hHeader : isHeader line = false) (hOpen : r.block = none) :
    Reports (lines ++ [(line, number)]) (r.warn [strayWarning (line, number)]) := by
  have hOpen' : openBlock? (keptOf lines) = none := h.block.symm.trans hOpen
  have hEmpty : blocks (keptOf lines) = [] := List.getLast?_eq_none_iff.mp hOpen'
  have hBlocks : blocks (keptOf (lines ++ [(line, number)])) = [] := by
    rw [keptOf_concat, hKept, if_pos rfl, blocks_concat_body _ hExclude hHeader, hOpen', hEmpty]
    rfl
  have hStrays : strays (lines ++ [(line, number)]) = strays lines ++ [strayWarning (line, number)] := by
    rw [strays_concat, hOpen', strays_singleton, hKept, hExclude, hHeader]
    rfl
  have hWarnings : r.warnings = strays lines := by
    rw [h.warnings, hEmpty]
    exact List.append_nil _
  constructor
  · rw [openBlock?, hBlocks]
    exact hOpen
  · rw [hBlocks, hStrays, ← hWarnings]
    exact (List.append_nil _).symm

theorem step (h : Reports lines r) (hStep : r.step number line = .ok s) :
    Reports (lines ++ [(line, number)]) s := by
  cases hKept : isKept line with
  | false =>
    rw [Reading.step, keyword?_of_not_kept hKept] at hStep
    cases hStep
    exact h.step_not_kept hKept
  | true =>
    rw [step_of_kept r number hKept] at hStep
    cases hExclude : isExclude line with
    | true =>
      rw [hExclude, if_pos rfl] at hStep
      obtain ⟨hWarnings, hBlock⟩ := parts_of_settle hStep
      exact h.step_exclude hExclude hWarnings hBlock
    | false =>
      rw [hExclude, if_neg Bool.false_ne_true] at hStep
      cases hHeader : isHeader line with
      | true =>
        rw [hHeader, if_pos rfl] at hStep
        obtain ⟨closed, hClose, hNext⟩ := exists_of_bind_eq_ok hStep
        cases hNext
        exact h.step_header hHeader hClose
      | false =>
        rw [hHeader, if_neg Bool.false_ne_true] at hStep
        cases hOpen : r.block with
        | none =>
          rw [hOpen] at hStep
          cases hStep
          exact h.step_stray hKept hExclude hHeader hOpen
        | some body =>
          rw [hOpen] at hStep
          cases hStep
          exact h.step_body hKept hExclude hHeader hOpen

theorem run (h : lines.foldlM (fun r (line, number) => r.step number line) Reading.start = .ok r) :
    Reports lines r := by
  -- from the end, since what a line adds to the warnings depends on the lines before it
  induction lines using List.reverseRecOn generalizing r with
  | nil =>
    cases h
    exact ⟨rfl, rfl⟩
  | append_singleton lines x ih =>
    obtain ⟨line, number⟩ := x
    rw [List.foldlM_append] at h
    obtain ⟨last, hLast, hNext⟩ := exists_of_bind_eq_ok h
    rw [List.foldlM_cons] at hNext
    obtain ⟨next, hStep, hEnd⟩ := exists_of_bind_eq_ok hNext
    cases hEnd
    exact (ih hLast).step hStep

end Reports

theorem keptOf_numberedLines (t : Text) : keptOf (numberedLines t) = keptLines t := by
  rw [keptOf, numberedLines, List.zipIdx_map_fst, keptLines]

/-- The warnings of a database that loads: first for the stray lines, and then for its blocks. -/
theorem warnings_eq_of_load {t : Text} {registry : Registry} {warnings : List Warning}
    (h : load t = .ok (registry, warnings)) :
    warnings = strays (numberedLines t) ++ (blocks (keptLines t)).flatMap blockWarnings := by
  obtain ⟨last, hLines, hRest⟩ := exists_of_bind_eq_ok h
  obtain ⟨closed, hClose, hEnd⟩ := exists_of_bind_eq_ok hRest
  cases hEnd
  rw [← keptOf_numberedLines]
  exact (Reports.run hLines).close hClose

def IsFaultless (block : List Text) : Prop := ∃ p, Probe.compile block = .ok (p, [])

theorem blockWarnings_of_faultless {block : List Text} (h : IsFaultless block) :
    blockWarnings block = [] := by
  obtain ⟨p, hCompile⟩ := h
  cases block with
  | nil => rfl
  | cons header body =>
    cases hHeader : Probe.ofHeader header with
    | error fault =>
      rw [Probe.compile, hHeader] at hCompile
      cases hCompile
    | ok declared =>
      rw [Probe.compile_of_header hHeader] at hCompile
      have hFaults : body.filterMap Probe.fault? = [] := congrArg Prod.snd (Except.ok.inj hCompile)
      simp only [blockWarnings, hHeader, hFaults, List.map_nil]

/-- A database whose lines all belong to faultless blocks loads without a warning. -/
theorem warnings_of_load {t : Text} {r : Registry} {warnings : List Warning}
    (h : load t = .ok (r, warnings))
    (hBlocks : ∀ block ∈ blocks (keptLines t), IsFaultless block)
    (hStray : bodyOf ((keptLines t).filter fun line => !isExclude line) = []) : warnings = [] := by
  have hNone : strays (numberedLines t) = [] := by
    rw [← keptOf_numberedLines, filter_keptOf, bodyOf, List.takeWhile_map, List.map_eq_nil_iff] at hStray
    rw [strays, List.map_eq_nil_iff]
    exact hStray
  have hQuiet : (blocks (keptLines t)).flatMap blockWarnings = [] := by
    apply List.flatMap_eq_nil_iff.mpr
    intro block hBlock
    exact blockWarnings_of_faultless (hBlocks block hBlock)
  rw [warnings_eq_of_load h, hNone, hQuiet]
  rfl

/-! ## Rules of a block -/

theorem isRuleLine_eq_true_iff : isRuleLine line = true ↔
    (Probe.keywordAndArgument line.trim).1 = "match".toList ∨
      (Probe.keywordAndArgument line.trim).1 = "softmatch".toList := by
  rw [keyword_of_trim, isRuleLine, Bool.or_eq_true, beq_iff_eq, beq_iff_eq]
  cases firstWord? line with
  | none => simp
  | some word => simp only [Option.some.injEq, Option.getD_some]

theorem rule?_of_readDirective {d : Probe.Directive} (h : Probe.readDirective line = .ok d) :
    d.rule?.isSome = isRuleLine line := by
  rw [Bool.eq_iff_iff, isRuleLine_eq_true_iff]
  simp only [Probe.readDirective] at h
  split at h
  · rename_i hKeyword
    obtain ⟨_, _, rfl⟩ := Probe.exists_of_map_eq_ok h
    simp only [Bool.or_eq_true, decide_eq_true_eq] at hKeyword
    exact iff_of_true rfl hKeyword
  · rename_i hKeyword
    have hNone : d.rule? = none := by
      iterate 6
        split at h
        · obtain ⟨_, _, rfl⟩ := Probe.exists_of_map_eq_ok h
          rfl
      cases h
      rfl
    simp only [Bool.or_eq_true, decide_eq_true_eq] at hKeyword
    rw [hNone]
    exact iff_of_false Bool.false_ne_true hKeyword

def ruleOf? (line : Text) : Option Rule := (Probe.effect? line).bind Probe.Directive.rule?

/-- A line adds a rule exactly when it is written as one and is not refused. -/
theorem isSome_ruleOf? (line : Text) :
    (ruleOf? line).isSome = (isRuleLine line && (Probe.fault? line).isNone) := by
  unfold ruleOf? Probe.effect? Probe.fault?
  cases hRead : Probe.readDirective line with
  | ok directive =>
    rw [Option.bind_some, rule?_of_readDirective hRead]
    exact (Bool.and_true _).symm
  | error fault =>
    cases fault <;> exact (Bool.and_false _).symm

theorem length_filterMap_ruleOf? (body : List Text) :
    (body.filterMap ruleOf?).length + ((body.filter isRuleLine).filterMap Probe.fault?).length =
      (body.filter isRuleLine).length := by
  induction body with
  | nil => rfl
  | cons line body ih =>
    have hLine := isSome_ruleOf? line
    cases hRule : isRuleLine line with
    | false =>
      rw [hRule, Bool.false_and, Option.isSome_eq_false_iff, Option.isNone_iff_eq_none] at hLine
      rw [List.filterMap_cons_none hLine, List.filter_cons_of_neg (by simp [hRule])]
      exact ih
    | true =>
      rw [hRule, Bool.true_and] at hLine
      rw [List.filter_cons_of_pos hRule, List.length_cons]
      cases hFault : Probe.fault? line with
      | none =>
        rw [hFault] at hLine
        obtain ⟨rule, hRule⟩ := Option.isSome_iff_exists.mp hLine
        rw [List.filterMap_cons_some hRule, List.filterMap_cons_none hFault, List.length_cons]
        omega
      | some fault =>
        rw [hFault, Option.isNone_some, Option.isSome_eq_false_iff, Option.isNone_iff_eq_none] at hLine
        rw [List.filterMap_cons_none hLine, List.filterMap_cons_some hFault, List.length_cons]
        omega

theorem rules_of_compiled {header : Text} {body : List Text} {p : Probe}
    (h : compiled? (header :: body) = some p) : p.rules = body.filterMap ruleOf? := by
  cases hHeader : Probe.ofHeader header with
  | error fault =>
    have hNone := (compiled?_eq_none_iff header body).mpr ⟨fault, hHeader⟩
    rw [h] at hNone
    cases hNone
  | ok declared =>
    rw [compiled?, Probe.compile_of_header hHeader] at h
    cases h
    rw [Probe.putAll_eq]
    simp only [(Probe.lists_of_ofHeader hHeader).2, List.nil_append]
    exact List.filterMap_filterMap ..

/-- A database that loads reports each line that it has no use for exactly once, in order, and every
rule line of a probe that is not reported has become a rule. -/
theorem load_reports_all {t : Text} {r : Registry} (h : Registry.parse t = .ok r) :
    load t = .ok (r, strays (numberedLines t) ++ (blocks (keptLines t)).flatMap blockWarnings) ∧
    (∀ (p : Probe) line, (p.apply line).2 = Probe.fault? line) ∧
    r.probes = (blocks (keptLines t)).filterMap compiled? ∧
    ∀ header body p, header :: body ∈ blocks (keptLines t) → compiled? (header :: body) = some p →
      p.rules.length + ((body.filter isRuleLine).filterMap Probe.fault?).length =
        (body.filter isRuleLine).length := by
  obtain ⟨warnings, hLoad⟩ := exists_load_of_parse h
  refine ⟨?_, ?_, probes_of_parse h, ?_⟩
  · rw [← warnings_eq_of_load hLoad, hLoad]
  · intro p line
    rw [Probe.apply_eq]
  · intro header body p _ hCompiled
    rw [rules_of_compiled hCompiled]
    exact length_filterMap_ruleOf? body

/-- A text with a stray line, a bad header and a refused rule. -/
theorem load_reports_all_of_mixed :
    ∃ r, load "rarity 1\nProbe\nProbe TCP A q||\nmatch c".toList =
      .ok (r, [.strayLine 1 "rarity".toList, .droppedProbe (.notHeader "Probe".toList),
        .skippedLine "A" (.rule (.withoutPattern "match c".toList))]) := by
  obtain ⟨r, hr⟩ : ∃ r, Registry.parse "rarity 1\nProbe\nProbe TCP A q||\nmatch c".toList = .ok r :=
    ⟨_, rfl⟩
  exact ⟨r, (load_reports_all hr).1⟩

end ServiceProbe.Database
