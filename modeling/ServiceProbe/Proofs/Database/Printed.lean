import ServiceProbe.Proofs.Database.Warnings
import ServiceProbe.Proofs.Probe.Printed
import ServiceProbe.Proofs.Text.Replacement

/-! # Printed databases

A database is printed as the line of its exclusion, if it excludes any port, and the lines of its
probes one after the other. Loading the text gives back the probes in their order and the excluded
ports, and reports nothing. A text is read after the marks for backquotes in it have given way to
backquotes, so what is read of a printed text is the text itself only if it holds no such mark. -/

namespace ServiceProbe.Database
set_option autoImplicit false

open Text (IsWord IsTight IsPadded Spaced Headed)

structure Definition where
  exclude : PortSet
  probes : List Probe.Definition
  names_nodup : (probes.map Probe.Definition.name).Nodup

/-- The lines of an exclusion: one, or none if it holds no port. -/
inductive PrintsExclusion : PortSet → List Text → Prop
  | none {s : PortSet} (h : s.isEmpty = true) : PrintsExclusion s []
  | line {s : PortSet} {t line : Text} (hSome : s.isEmpty = false) (hSet : s.Written t)
    (h : Spaced ["Exclude".toList, t] line) : PrintsExclusion s [line]

namespace Definition

def Printed (d : Definition) (t : Text) : Prop :=
  ∃ (exclusion : List Text) (blocks : List (Probe.Definition × List Text)),
    PrintsExclusion d.exclude exclusion ∧ d.probes = blocks.map Prod.fst ∧
    (∀ block ∈ blocks, block.1.Printed block.2) ∧
    Text.Listed (exclusion ++ (blocks.map Prod.snd).flatten) t

/-- The text loads without a warning, and its registry holds what the definition says. -/
def LoadsFrom (d : Definition) (t : Text) : Prop :=
  ∃ r, load t = .ok (r, []) ∧ r.probes = d.probes.map Probe.Definition.probe ∧
    (∀ port, r.exclude.contains port = d.exclude.contains port) ∧
    (d.exclude.filled = false → r.exclude = d.exclude)

end Definition

/-! ## Lines -/

theorem isKept_of_headed {w line : Text} (h : Headed w line) (hw : w ∈ keywords) :
    isKept line = true := by
  have hFirst : firstWord? line = some w := h.first
  rw [isKept_eq, hFirst]
  exact List.contains_iff_mem.mpr hw

theorem last_of_headed {w line : Text} (h : Headed w line) : line.getLast? ≠ some '\r' := by
  obtain ⟨front, c, rfl, hc⟩ := h.isTight.last
  rw [List.getLast?_concat]
  rintro ⟨⟩
  exact absurd hc (by decide)

theorem keptLines_of_listed {lines : List Text} {t : Text}
    (hLines : ∀ line ∈ lines, ∃ w ∈ keywords, Headed w line)
    (h : Text.Listed lines (Text.replace backquoteMark ['\x60'] t)) : keptLines t = lines := by
  have hSplit : Text.lines (Text.replace backquoteMark ['\x60'] t) = lines := by
    refine Text.lines_of_listed h (fun line hIn => ?_) fun line hIn => ?_
    · obtain ⟨w, _, hw⟩ := hLines line hIn
      exact hw.free
    · obtain ⟨w, _, hw⟩ := hLines line hIn
      exact last_of_headed hw
  rw [keptLines, hSplit]
  refine List.filter_eq_self.mpr fun line hIn => ?_
  obtain ⟨w, hKeyword, hw⟩ := hLines line hIn
  exact isKept_of_headed hw hKeyword

theorem isHeader_of_headed {w line : Text} (h : Headed w line) :
    isHeader line = (w == "Probe".toList) := by
  have hFirst : firstWord? line = some w := h.first
  rw [isHeader, hFirst]
  rfl

theorem isExclude_of_headed {w line : Text} (h : Headed w line) :
    isExclude line = (w == "Exclude".toList) := by
  have hFirst : firstWord? line = some w := h.first
  rw [isExclude, hFirst]
  rfl

/-! ## Blocks -/

def IsBlock (block : List Text) : Prop :=
  ∃ header body, block = header :: body ∧ isHeader header = true ∧ ∀ line ∈ body, isHeader line = false

theorem blocksOf_append_of_body {body : List Text} (h : ∀ line ∈ body, isHeader line = false)
    (rest : List Text) : blocksOf (body ++ rest) = blocksOf rest := by
  induction body with
  | nil => rfl
  | cons line body ih =>
    obtain ⟨hLine, hBody⟩ := List.forall_mem_cons.mp h
    rw [List.cons_append, blocksOf, hLine, if_neg Bool.false_ne_true, ih hBody]

theorem bodyOf_flatten_blocks {bs : List (List Text)} (h : ∀ block ∈ bs, IsBlock block) :
    bodyOf bs.flatten = [] := by
  cases bs with
  | nil => rfl
  | cons block bs =>
    obtain ⟨⟨header, body, rfl, hHeader, _⟩, _⟩ := List.forall_mem_cons.mp h
    simp [bodyOf, hHeader]

theorem blocksOf_flatten_blocks {bs : List (List Text)} (h : ∀ block ∈ bs, IsBlock block) :
    blocksOf bs.flatten = bs := by
  induction bs with
  | nil => rfl
  | cons block bs ih =>
    obtain ⟨⟨header, body, rfl, hHeader, hBody⟩, hRest⟩ := List.forall_mem_cons.mp h
    -- the next block begins with a header, where the body of this one ends
    have hFirst : bodyOf (body ++ bs.flatten) = body := by
      rw [bodyOf, List.takeWhile_append_of_pos fun line hIn => by simp [hBody line hIn]]
      exact (congrArg (body ++ ·) (bodyOf_flatten_blocks hRest)).trans (List.append_nil body)
    rw [List.flatten_cons, List.cons_append, blocksOf, hHeader, if_pos rfl, hFirst,
      blocksOf_append_of_body hBody, ih hRest]

theorem compiled?_of_printed {d : Probe.Definition} {lines : List Text} (h : d.Printed lines) :
    compiled? lines = some d.probe := by
  rw [compiled?, Probe.Definition.compile_of_printed h]
  rfl

theorem isBlock_of_printed {d : Probe.Definition} {lines : List Text} (h : d.Printed lines) :
    IsBlock lines := by
  have hWords : ∀ w ∈ Probe.Clause.directiveWords, (w == "Probe".toList) = false := by decide
  obtain ⟨header, body, rfl, hHeader, hBody⟩ := Probe.Definition.lines_of_printed h
  refine ⟨header, body, rfl, isHeader_of_headed hHeader, fun line hIn => ?_⟩
  obtain ⟨w, hw, hLine⟩ := hBody line hIn
  rw [isHeader_of_headed hLine, hWords w hw]

theorem headed_of_printed {d : Probe.Definition} {lines : List Text} (h : d.Printed lines) :
    ∀ line ∈ lines, ∃ w ∈ keywords, (w == "Exclude".toList) = false ∧ Headed w line := by
  have hWords : ∀ w ∈ Probe.Clause.directiveWords,
      w ∈ keywords ∧ (w == "Exclude".toList) = false := by decide
  obtain ⟨header, body, rfl, hHeader, hBody⟩ := Probe.Definition.lines_of_printed h
  refine List.forall_mem_cons.mpr ⟨⟨_, by decide, by decide, hHeader⟩, fun line hIn => ?_⟩
  obtain ⟨w, hw, hLine⟩ := hBody line hIn
  exact ⟨w, (hWords w hw).1, (hWords w hw).2, hLine⟩

/-! ## The exclusion -/

namespace PrintsExclusion

variable {s : PortSet} {lines : List Text}

theorem isWord_exclude : IsWord "Exclude".toList := by decide

theorem headed (h : PrintsExclusion s lines) : ∀ line ∈ lines, Headed "Exclude".toList line := by
  cases h with
  | none => simp
  | @line t line _ hSet hLine =>
    exact List.forall_mem_singleton.mpr (hLine.headed isWord_exclude
      (List.forall_mem_singleton.mpr ⟨hSet.isWord.isTight, hSet.isWord.free⟩))

theorem read (h : PrintsExclusion s lines) :
    (∀ expression ∈ lines.map afterWord, ∃ added, PortSet.parse expression = .ok added) ∧
      ∀ port, (lines.map afterWord).any (Registry.holds port) = s.contains port := by
  cases h with
  | none hEmpty => simp [PortSet.eq_empty_of_isEmpty hEmpty]
  | @line t line _ hSet hLine =>
    obtain ⟨rest, after, hNext, hAfter, hRest⟩ := hLine.nextWord? isWord_exclude (IsPadded.refl line)
      (List.forall_mem_singleton.mpr hSet.isWord.isTight)
    obtain ⟨added, hParse, hContains⟩ := hSet.parse (hRest.eq_of_singleton ▸ hAfter)
    have hArgument : afterWord line = after := by
      rw [← excludeArgument_eq, Reading.excludeArgument, hNext]
      rfl
    rw [List.map_singleton, hArgument]
    refine ⟨List.forall_mem_singleton.mpr ⟨added, hParse⟩, fun port => ?_⟩
    simp [Registry.holds, hParse, Except.toOption, hContains]

end PrintsExclusion

/-! ## Loading -/

section

variable {exclusion body : List Text} (hExclusion : ∀ line ∈ exclusion, isExclude line = true)
  (hBody : ∀ line ∈ body, isExclude line = false)

include hExclusion hBody

theorem exclusions_append : exclusions (exclusion ++ body) = exclusion.map afterWord := by
  have hNone : body.filter isExclude = [] :=
    List.filter_eq_nil_iff.mpr fun line hIn => by simp [hBody line hIn]
  rw [exclusions, List.filter_append, List.filter_eq_self.mpr hExclusion, hNone, List.append_nil]

theorem filter_append_body : (exclusion ++ body).filter (fun line => !isExclude line) = body := by
  have hNone : exclusion.filter (fun line => !isExclude line) = [] :=
    List.filter_eq_nil_iff.mpr fun line hIn => by simp [hExclusion line hIn]
  have hAll : body.filter (fun line => !isExclude line) = body :=
    List.filter_eq_self.mpr fun line hIn => by simp [hBody line hIn]
  rw [List.filter_append, hNone, hAll, List.nil_append]

end

/-- What the exclusions and blocks among some lines make of a database. -/
structure Definition.SaidBy (d : Definition) (kept : List Text) : Prop where
  expressions : ∀ expression ∈ exclusions kept, ∃ added, PortSet.parse expression = .ok added
  exclude : ∀ port, (exclusions kept).any (Registry.holds port) = d.exclude.contains port
  faultless : ∀ block ∈ blocks kept, IsFaultless block
  probes : (blocks kept).filterMap compiled? = d.probes.map Probe.Definition.probe
  no_stray : bodyOf (kept.filter fun line => !isExclude line) = []

theorem saidBy_of_printed {d : Definition} {t : Text}
    (h : d.Printed (Text.replace backquoteMark ['\x60'] t)) : d.SaidBy (keptLines t) := by
  obtain ⟨exclusion, printed, hExclusion, hProbes, hPrinted, hListed⟩ := h
  have hBody : ∀ line ∈ (printed.map Prod.snd).flatten,
      ∃ w ∈ keywords, (w == "Exclude".toList) = false ∧ Headed w line := by
    intro line hLine
    obtain ⟨lines, hLines, hIn⟩ := List.mem_flatten.mp hLine
    obtain ⟨block, hBlock, rfl⟩ := List.mem_map.mp hLines
    exact headed_of_printed (hPrinted block hBlock) line hIn
  have hKept : keptLines t = exclusion ++ (printed.map Prod.snd).flatten := by
    refine keptLines_of_listed (fun line hLine => ?_) hListed
    rcases List.mem_append.mp hLine with hIn | hIn
    · exact ⟨_, by decide, hExclusion.headed line hIn⟩
    · obtain ⟨w, hw, _, hHeaded⟩ := hBody line hIn
      exact ⟨w, hw, hHeaded⟩
  have hIsExclude : ∀ line ∈ exclusion, isExclude line = true := fun line hIn =>
    isExclude_of_headed (hExclusion.headed line hIn)
  have hIsNone : ∀ line ∈ (printed.map Prod.snd).flatten, isExclude line = false := by
    intro line hIn
    obtain ⟨w, _, hw, hHeaded⟩ := hBody line hIn
    rw [isExclude_of_headed hHeaded, hw]
  have hAreBlocks : ∀ lines ∈ printed.map Prod.snd, IsBlock lines := by
    intro lines hLines
    obtain ⟨block, hBlock, rfl⟩ := List.mem_map.mp hLines
    exact isBlock_of_printed (hPrinted block hBlock)
  have hRest := filter_append_body hIsExclude hIsNone
  have hBlocks : blocks (keptLines t) = printed.map Prod.snd := by
    rw [hKept, blocks, hRest, blocksOf_flatten_blocks hAreBlocks]
  have hExclusions : exclusions (keptLines t) = exclusion.map afterWord := by
    rw [hKept, exclusions_append hIsExclude hIsNone]
  obtain ⟨hExpressions, hHolds⟩ := hExclusion.read
  refine ⟨hExclusions ▸ hExpressions, hExclusions ▸ hHolds, fun lines hLines => ?_, ?_, ?_⟩
  · obtain ⟨block, hBlock, rfl⟩ := List.mem_map.mp (hBlocks ▸ hLines)
    exact ⟨_, Probe.Definition.compile_of_printed (hPrinted block hBlock)⟩
  · rw [hBlocks, hProbes, List.filterMap_map, List.map_map, ← List.filterMap_eq_map]
    exact List.filterMap_congr fun block hBlock => compiled?_of_printed (hPrinted block hBlock)
  · rw [hKept, hRest, bodyOf_flatten_blocks hAreBlocks]

theorem loadsFrom_of_printed {d : Definition} {t : Text}
    (h : d.Printed (Text.replace backquoteMark ['\x60'] t)) : d.LoadsFrom t := by
  have hSaid := saidBy_of_printed h
  have hNodup : ((d.probes.map Probe.Definition.probe).map Probe.name).Nodup := by
    have hNames : (d.probes.map Probe.Definition.probe).map Probe.name =
        (d.probes.map Probe.Definition.name).map String.ofList := by
      simp only [List.map_map]
      rfl
    rw [hNames]
    exact d.names_nodup.map fun _ _ => String.ofList_inj.mp
  obtain ⟨r, hr⟩ := (exists_parse_iff t).mpr ⟨hSaid.expressions, hSaid.probes ▸ hNodup⟩
  obtain ⟨warnings, hLoad⟩ := exists_load_of_parse hr
  cases warnings_of_load hLoad hSaid.faultless hSaid.no_stray
  have hExclude (port : Port) : r.exclude.contains port = d.exclude.contains port := by
    rw [contains_exclude_of_parse hr, hSaid.exclude]
  exact ⟨r, hLoad, (probes_of_parse hr).trans hSaid.probes, hExclude,
    fun hUnfilled => PortSet.eq_of_contains (filled_exclude_of_parse hr) hUnfilled hExclude⟩

theorem exists_printsExclusion (s : PortSet) : ∃ lines, PrintsExclusion s lines := by
  cases h : s.isEmpty with
  | true => exact ⟨[], .none h⟩
  | false =>
    obtain ⟨t, ht⟩ := PortSet.exists_written h
    obtain ⟨line, hLine⟩ := Spaced.exists_of_ne_nil (List.cons_ne_nil "Exclude".toList [t])
    exact ⟨[line], .line h ht hLine⟩

theorem exists_blocks (probes : List Probe.Definition) :
    ∃ printed : List (Probe.Definition × List Text), probes = printed.map Prod.fst ∧
      ∀ block ∈ printed, block.1.Printed block.2 := by
  induction probes with
  | nil => exact ⟨[], rfl, by simp⟩
  | cons d probes ih =>
    obtain ⟨lines, hLines⟩ := d.exists_printed
    obtain ⟨printed, rfl, hPrinted⟩ := ih
    exact ⟨(d, lines) :: printed, rfl, List.forall_mem_cons.mpr ⟨hLines, hPrinted⟩⟩

/-- Loading undoes printing: every definition can be printed, and every printed text without a mark
for a backquote loads to what was printed, as does every text that becomes a printed one once its
marks are replaced. -/
theorem parse_undoes_printing (d : Definition) :
    (∃ printed, d.Printed printed) ∧ ∀ printed, d.Printed printed →
      (¬ backquoteMark <:+: printed → d.LoadsFrom printed) ∧
        ∀ t, Text.replace backquoteMark ['\x60'] t = printed → d.LoadsFrom t := by
  refine ⟨?_, fun printed hPrinted => ⟨fun hMark => ?_, ?_⟩⟩
  · obtain ⟨exclusion, hExclusion⟩ := exists_printsExclusion d.exclude
    obtain ⟨blocks, hProbes, hBlocks⟩ := exists_blocks d.probes
    obtain ⟨t, ht⟩ := Text.Listed.exists (exclusion ++ (blocks.map Prod.snd).flatten)
    exact ⟨t, exclusion, blocks, hExclusion, hProbes, hBlocks, ht⟩
  · refine loadsFrom_of_printed ?_
    rwa [Text.replace_eq_self _ (by decide) hMark]
  · rintro t rfl
    exact loadsFrom_of_printed hPrinted

/-! ## A sample -/

def sampleRule : Rule.Definition where
  kind := .hard
  service := "http".toList
  pattern := "a .".toList
  flags := ⟨true, false⟩
  fields := [(.product, "A b".toList)]
  service_isWord := by decide
  pattern_free := by decide
  accepted := by decide +kernel
  fields_free := by decide

def sampleProbe (name : Text) (hName : IsWord name) : Probe.Definition where
  name := name
  protocol := .tcp
  payload := [0x41, 0x00]
  ports := .empty
  sslPorts := .empty
  rarity := some 3
  totalWait := none
  tcpWrapped := none
  fallback := []
  rules := [sampleRule]
  name_isWord := hName
  ports_unfilled := rfl
  sslPorts_unfilled := rfl
  rarity_bounds := by simp
  fallback_words := by simp

def sample (name : Text) (hName : IsWord name) : Definition where
  exclude := PortSet.empty.insertRange (.only 7 (by decide))
  probes := [sampleProbe name hName]
  names_nodup := by simp

def sampleHeader (name : Text) : Text :=
  Text.join ' ' ["Probe".toList, "TCP".toList, name, "q|A\\0|".toList]

def sampleText (name : Text) : Text :=
  Text.join '\n' ["Exclude\t7".toList, sampleHeader name, "match http m|a .|i p/A b/".toList,
    "rarity 3".toList]

theorem printed_sampleRule : sampleRule.Printed "match http m|a .|i p/A b/".toList :=
  ⟨['i'], [((.product, "A b".toList), "p/A b/".toList)],
    ⟨List.forall_mem_singleton.mpr (Or.inl rfl), rfl, rfl⟩, rfl,
    List.forall_mem_singleton.mpr ⟨[], Or.inl rfl, rfl⟩,
    .cons Text.isGap_space (.cons Text.isGap_space (.cons Text.isGap_space (.single _)))⟩

theorem spelled_samplePayload : Payload.Spelled [0x41, 0x00] "A\\0".toList := by
  refine ⟨[(0x41, ['A']), (0x00, ['\\', '0'])], ?_, rfl, rfl⟩
  refine List.forall_mem_cons.mpr ⟨?_, List.forall_mem_singleton.mpr ?_⟩
  · exact Payload.Spells.plain ⟨by decide, by decide⟩ (by decide : 'A' ≠ '|') (by decide)
  · exact Payload.Spells.named ⟨by decide, by decide⟩ (by decide : '0' ≠ '|') (by decide)

theorem printed_sampleProbe (name : Text) (hName : IsWord name) : (sampleProbe name hName).Printed
    [sampleHeader name, "match http m|a .|i p/A b/".toList, "rarity 3".toList] := by
  refine ⟨_, _, [(.rule sampleRule, _), (.rarity 3, _)], spelled_samplePayload, ?_, ?_, ?_, rfl⟩
  · exact .cons Text.isGap_space (.cons Text.isGap_space (.cons Text.isGap_space (.single _)))
  · constructor <;> rfl
  · exact List.forall_mem_cons.mpr ⟨.rule printed_sampleRule,
      List.forall_mem_singleton.mpr (.pair (.rarity 3) (.cons Text.isGap_space (.single _)))⟩

theorem printed_sample (name : Text) (hName : IsWord name) :
    (sample name hName).Printed (sampleText name) := by
  have hTab : Text.IsGap ['\t'] := ⟨by simp, by simp⟩
  have hSet : (sample name hName).exclude.Written ['7'] := by
    refine ⟨[(.only 7 (by decide), ['7'])], by simp, ?_, rfl, fun port => ?_⟩
    · exact List.forall_mem_singleton.mpr (Or.inr ⟨rfl, rfl⟩)
    · simp [sample, PortSet.contains_insertRange]
  refine ⟨[_], [(_, _)], .line rfl hSet (.cons hTab (.single _)), rfl,
    List.forall_mem_singleton.mpr (printed_sampleProbe name hName), ?_⟩
  have hEnd : Text.IsLineEnd ['\n'] := Or.inl rfl
  exact .cons hEnd (.cons hEnd (.cons hEnd (.last (by decide))))

theorem parse_undoes_printing_of_sample :
    ¬ backquoteMark <:+: sampleText ['a'] ∧ (sample ['a'] (by decide)).LoadsFrom (sampleText ['a']) :=
  have hMark : ¬ backquoteMark <:+: sampleText ['a'] := by decide +kernel
  ⟨hMark, ((parse_undoes_printing _).2 _ (printed_sample ['a'] (by decide))).1 hMark⟩

/-- A name that is the mark for a backquote does not come back: the probe is loaded under the
backquote. -/
theorem mark_not_loaded_back :
    (sample backquoteMark (by decide)).Printed (sampleText backquoteMark) ∧
      ¬ (sample backquoteMark (by decide)).LoadsFrom (sampleText backquoteMark) := by
  refine ⟨printed_sample _ _, ?_⟩
  rintro ⟨r, hr, hProbes, _⟩
  have hReplaced : Text.replace backquoteMark ['\x60'] (sampleText backquoteMark) =
      sampleText ['\x60'] := by
    decide +kernel
  obtain ⟨s, hs, hOther, _⟩ :=
    loadsFrom_of_printed (hReplaced ▸ printed_sample ['\x60'] (by decide))
  cases hr.symm.trans hs
  have hNames : String.ofList backquoteMark = String.ofList ['\x60'] :=
    congrArg Probe.name (List.cons.inj (hProbes.symm.trans hOther)).1
  exact absurd (String.ofList_inj.mp hNames) (by decide)

end ServiceProbe.Database
