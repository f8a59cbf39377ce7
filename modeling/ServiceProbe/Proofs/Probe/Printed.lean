import ServiceProbe.Proofs.Payload.Spelling
import ServiceProbe.Proofs.Port.Written
import ServiceProbe.Proofs.Probe.Directives
import ServiceProbe.Proofs.Rule.Printed

/-! # Printed probes

A probe is printed as its header line and one line for every clause of its definition: one for each
set of ports that is not empty, for each number and list of names that is there, and for each rule.
The clauses may stand in any order that keeps the rules in theirs. Compiling the lines gives the
probe of the definition and reports nothing. -/

namespace ServiceProbe.Probe
set_option autoImplicit false

open Text (IsWord IsTight IsPadded Spaced Headed)

inductive Clause where
  | rule (d : Rule.Definition)
  | ports (s : PortSet)
  | sslPorts (s : PortSet)
  | rarity (value : Nat)
  | totalWait (ms : UInt64)
  | tcpWrapped (ms : UInt64)
  | fallback (names : List Text)

namespace Clause

def rule? : Clause → Option Rule.Definition
  | rule d => some d
  | _ => none

def ports? : Clause → Option PortSet
  | ports s => some s
  | _ => none

def sslPorts? : Clause → Option PortSet
  | sslPorts s => some s
  | _ => none

def rarity? : Clause → Option Nat
  | rarity value => some value
  | _ => none

def totalWait? : Clause → Option UInt64
  | totalWait ms => some ms
  | _ => none

def tcpWrapped? : Clause → Option UInt64
  | tcpWrapped ms => some ms
  | _ => none

def fallback? : Clause → Option (List Text)
  | fallback names => some names
  | _ => none

/-- The keyword of a clause other than a rule, and a text that says what is in it. -/
inductive Says : Clause → Text → Text → Prop
  | ports {s : PortSet} {t : Text} (h : s.Written t) : Says (ports s) "ports".toList t
  | sslPorts {s : PortSet} {t : Text} (h : s.Written t) : Says (sslPorts s) "sslports".toList t
  | rarity (value : Nat) : Says (rarity value) "rarity".toList (Text.ofNat value)
  | totalWait (ms : UInt64) : Says (totalWait ms) "totalwaitms".toList (Text.ofNat ms.toNat)
  | tcpWrapped (ms : UInt64) : Says (tcpWrapped ms) "tcpwrappedms".toList (Text.ofNat ms.toNat)
  | fallback (names : List Text) : Says (fallback names) "fallback".toList (Text.join ',' names)

inductive Printed : Clause → Text → Prop
  | rule {d : Rule.Definition} {line : Text} (h : d.Printed line) : Printed (rule d) line
  | pair {c : Clause} {w argument line : Text} (hSays : c.Says w argument)
    (h : Spaced [w, argument] line) : Printed c line

/-- What a clause may hold besides a rule. -/
def Sound : Clause → Prop
  | ports s | sslPorts s => s.isEmpty = false
  | rarity value => 1 ≤ value ∧ value ≤ 9
  | fallback names => names ≠ [] ∧ ∀ name ∈ names, IsWord name ∧ ',' ∉ name
  | _ => True

/-- The directives that a clause is read as. Other ranges may say the same ports. -/
inductive Means : Clause → Directive → Prop
  | rule (d : Rule.Definition) : Means (rule d) (.rule d.rule)
  | ports {s : PortSet} {ranges : List PortRange}
    (h : ∀ port, (ranges.foldl PortSet.insertRange .empty).contains port = s.contains port) :
    Means (ports s) (.ports ranges)
  | sslPorts {s : PortSet} {ranges : List PortRange}
    (h : ∀ port, (ranges.foldl PortSet.insertRange .empty).contains port = s.contains port) :
    Means (sslPorts s) (.sslPorts ranges)
  | rarity (value : Nat) : Means (rarity value) (.rarity value)
  | totalWait (ms : UInt64) : Means (totalWait ms) (.totalWait (.ofMillis ms))
  | tcpWrapped (ms : UInt64) : Means (tcpWrapped ms) (.tcpWrapped (.ofMillis ms))
  | fallback (names : List Text) : Means (fallback names) (.fallback (names.map String.ofList))

def directiveWords : List Text :=
  ["match", "softmatch", "ports", "sslports", "rarity", "totalwaitms", "tcpwrappedms", "fallback"].map
    String.toList

theorem keywordAndArgument_of_spaced {w next line : Text} {tokens : List Text}
    (h : Spaced (w :: next :: tokens) line) (hw : IsWord w)
    (hTight : ∀ t ∈ next :: tokens, IsTight t) :
    ∃ rest, keywordAndArgument line = (w, rest) ∧ Spaced (next :: tokens) rest := by
  obtain ⟨rest, padded, hCut, hPadded, hRest⟩ := h.cutAt?_isBlank hw
  refine ⟨rest, ?_, hRest⟩
  rw [keywordAndArgument, hCut]
  simp only [hPadded.trim (hRest.isTight hTight)]

theorem readDirective_rule {d : Rule.Definition} {line : Text} (h : d.Printed line) :
    readDirective line = .ok (.rule d.rule) := by
  have hTrim := (Rule.Definition.headed_of_printed h).isTight.trim
  have hCompile := Rule.Definition.compile_of_printed h
  obtain ⟨flags, fields, hFlags, hFields, hPrinted, hLine⟩ := h
  have hTokens := Rule.Definition.tokens_of_printed hFlags hFields hPrinted
  obtain ⟨rest, hRead, _⟩ := keywordAndArgument_of_spaced hLine (Rule.isWord_keyword d.kind)
    fun t ht => (hTokens t ht).1
  have hKeyword : (Rule.keyword d.kind = "match".toList ||
      Rule.keyword d.kind = "softmatch".toList) = true := by
    cases d.kind <;> decide
  unfold readDirective
  simp only [hTrim, hRead]
  rw [if_pos hKeyword, hCompile]
  rfl

theorem readNames_join {names : List Text} (h : names ≠ [])
    (hNames : ∀ name ∈ names, IsWord name ∧ ',' ∉ name) :
    readNames (Text.join ',' names) = .ok (names.map String.ofList) := by
  have hParts : Text.commaParts (Text.join ',' names) = names :=
    Text.commaParts_join h fun name hName => (hNames name hName).2
  have hTrim : names.map Text.trim = names := by
    refine (List.map_congr_left fun name hName => ?_).trans (List.map_id names)
    exact (hNames name hName).1.isTight.trim
  have hKept : names.filter (fun name => !name.isEmpty) = names :=
    List.filter_eq_self.mpr fun name hName => by simp [(hNames name hName).1.ne_nil]
  rw [readNames, hParts, hTrim, hKept]
  simp [h, pure, Except.pure]

theorem readRarity_ofNat {value : Nat} (h : 1 ≤ value ∧ value ≤ 9) :
    readRarity (Text.ofNat value) = .ok value := by
  have hLimit : value ≤ 255 := by omega
  have hBounds : (decide (1 ≤ value) && decide (value ≤ 9)) = true := by simp [h]
  rw [readRarity, Text.readUnsigned?_ofNat hLimit, Option.filter_some, if_pos hBounds]
  rfl

theorem readMillis_ofNat (ms : UInt64) : readMillis (Text.ofNat ms.toNat) = .ok (.ofMillis ms) := by
  have hLimit : ms.toNat ≤ UInt64.size - 1 := Nat.le_sub_one_of_lt ms.toNat_lt
  rw [readMillis, Text.readUnsigned?_ofNat hLimit, Option.map_some, UInt64.ofNat_toNat]
  rfl

theorem Says.words {c : Clause} {w argument : Text} (h : c.Says w argument) (hSound : c.Sound) :
    w ∈ directiveWords ∧ IsWord w ∧ IsWord argument := by
  cases h with
  | ports h | sslPorts h => exact ⟨by decide, by decide, h.isWord⟩
  | rarity _ | totalWait _ | tcpWrapped _ =>
    exact ⟨by decide, by decide, Text.isWord_ofNat _⟩
  | fallback names =>
    have hWords : ∀ name ∈ names, IsWord name := fun name hName => (hSound.2 name hName).1
    exact ⟨by decide, by decide, Text.isWord_join hSound.1 hWords⟩

theorem Says.read {c : Clause} {w argument line : Text} (h : c.Says w argument) (hSound : c.Sound)
    (hTrim : line.trim = line) (hLine : keywordAndArgument line = (w, argument)) :
    ∃ directive, readDirective line = .ok directive ∧ c.Means directive := by
  cases h with
  | ports h =>
    obtain ⟨ranges, hRead, hContains⟩ := h.read (IsPadded.refl _)
    refine ⟨.ports ranges, ?_, .ports hContains⟩
    simp only [readDirective, hTrim, hLine, hRead]
    rw [if_neg (by decide), if_pos trivial]
    rfl
  | sslPorts h =>
    obtain ⟨ranges, hRead, hContains⟩ := h.read (IsPadded.refl _)
    refine ⟨.sslPorts ranges, ?_, .sslPorts hContains⟩
    simp only [readDirective, hTrim, hLine, hRead]
    rw [if_neg (by decide), if_neg (by decide), if_pos trivial]
    rfl
  | rarity value =>
    refine ⟨.rarity value, ?_, .rarity value⟩
    simp only [readDirective, hTrim, hLine, readRarity_ofNat hSound]
    rw [if_neg (by decide), if_neg (by decide), if_neg (by decide), if_pos trivial]
    rfl
  | totalWait ms =>
    refine ⟨.totalWait (.ofMillis ms), ?_, .totalWait ms⟩
    simp only [readDirective, hTrim, hLine, readMillis_ofNat]
    rw [if_neg (by decide), if_neg (by decide), if_neg (by decide), if_neg (by decide),
      if_pos trivial]
    rfl
  | tcpWrapped ms =>
    refine ⟨.tcpWrapped (.ofMillis ms), ?_, .tcpWrapped ms⟩
    simp only [readDirective, hTrim, hLine, readMillis_ofNat]
    rw [if_neg (by decide), if_neg (by decide), if_neg (by decide), if_neg (by decide),
      if_neg (by decide), if_pos trivial]
    rfl
  | fallback names =>
    refine ⟨.fallback (names.map String.ofList), ?_, .fallback names⟩
    simp only [readDirective, hTrim, hLine, readNames_join hSound.1 hSound.2]
    rw [if_neg (by decide), if_neg (by decide), if_neg (by decide), if_neg (by decide),
      if_neg (by decide), if_neg (by decide), if_pos trivial]
    rfl

theorem exists_says {c : Clause} (hSound : c.Sound) :
    (∃ d, c = rule d) ∨ ∃ w argument, c.Says w argument := by
  cases c with
  | rule d => exact Or.inl ⟨d, rfl⟩
  | ports s => exact Or.inr ⟨_, (PortSet.exists_written hSound).imp fun _ => .ports⟩
  | sslPorts s => exact Or.inr ⟨_, (PortSet.exists_written hSound).imp fun _ => .sslPorts⟩
  | rarity value => exact Or.inr ⟨_, _, .rarity value⟩
  | totalWait ms => exact Or.inr ⟨_, _, .totalWait ms⟩
  | tcpWrapped ms => exact Or.inr ⟨_, _, .tcpWrapped ms⟩
  | fallback names => exact Or.inr ⟨_, _, .fallback names⟩

theorem exists_printed {c : Clause} (hSound : c.Sound) : ∃ line, c.Printed line := by
  obtain ⟨d, rfl⟩ | ⟨w, argument, hSays⟩ := exists_says hSound
  · exact d.exists_printed.imp fun _ => .rule
  · exact (Spaced.exists_of_ne_nil (List.cons_ne_nil w [argument])).imp fun _ => .pair hSays

theorem headed_of_printed {c : Clause} {line : Text} (h : c.Printed line) (hSound : c.Sound) :
    ∃ w ∈ directiveWords, Headed w line := by
  cases h with
  | @rule d _ h =>
    refine ⟨Rule.keyword d.kind, ?_, Rule.Definition.headed_of_printed h⟩
    cases d.kind <;> decide
  | pair hSays h =>
    obtain ⟨hIn, hWord, hArgument⟩ := hSays.words hSound
    exact ⟨_, hIn, h.headed hWord (by simpa using ⟨hArgument.isTight, hArgument.free⟩)⟩

theorem read_of_printed {c : Clause} {line : Text} (h : c.Printed line) (hSound : c.Sound) :
    ∃ directive, readDirective line = .ok directive ∧ c.Means directive := by
  obtain ⟨_, _, hHeaded⟩ := headed_of_printed h hSound
  cases h with
  | rule h => exact ⟨_, readDirective_rule h, .rule _⟩
  | pair hSays h =>
    obtain ⟨_, hWord, hArgument⟩ := hSays.words hSound
    obtain ⟨rest, hLine, hRest⟩ :=
      keywordAndArgument_of_spaced h hWord (List.forall_mem_singleton.mpr hArgument.isTight)
    rw [hRest.eq_of_singleton] at hLine
    exact hSays.read hSound hHeaded.isTight.trim hLine

theorem exists_all_printed {clauses : List Clause} (h : ∀ c ∈ clauses, c.Sound) :
    ∃ printed : List (Clause × Text), printed.map Prod.fst = clauses ∧
      ∀ clause ∈ printed, clause.1.Printed clause.2 := by
  induction clauses with
  | nil => exact ⟨[], rfl, by simp⟩
  | cons c clauses ih =>
    obtain ⟨hFirst, hRest⟩ := List.forall_mem_cons.mp h
    obtain ⟨line, hLine⟩ := exists_printed hFirst
    obtain ⟨printed, rfl, hPrinted⟩ := ih hRest
    exact ⟨(c, line) :: printed, rfl, List.forall_mem_cons.mpr ⟨hLine, hPrinted⟩⟩

/-- What a directive leaves in each field, by the clause that it was read from. -/
theorem Means.parts {c : Clause} {directive : Directive} (h : c.Means directive) :
    directive.rule? = c.rule?.map Rule.Definition.rule ∧ directive.rarity? = c.rarity?.map id ∧
      directive.totalWait? = c.totalWait?.map Duration.ofMillis ∧
      directive.tcpWrapped? = c.tcpWrapped?.map Duration.ofMillis ∧
      directive.fallback? = c.fallback?.map (List.map String.ofList) := by
  cases h <;> exact ⟨rfl, rfl, rfl, rfl, rfl⟩

theorem Means.any_portRanges {c : Clause} {directive : Directive} (h : c.Means directive)
    (port : Port) :
    (directive.portRanges.any fun range => decide (range.Mem port)) =
        c.ports?.any (PortSet.contains · port) ∧
      (directive.sslPortRanges.any fun range => decide (range.Mem port)) =
        c.sslPorts?.any (PortSet.contains · port) := by
  cases h with
  | ports h =>
    refine ⟨?_, rfl⟩
    rw [ports?, Option.any_some, ← h, PortSet.contains_foldl_insertRange, PortSet.contains_empty,
      Bool.false_or]
    rfl
  | sslPorts h =>
    refine ⟨rfl, ?_⟩
    rw [sslPorts?, Option.any_some, ← h, PortSet.contains_foldl_insertRange, PortSet.contains_empty,
      Bool.false_or]
    rfl
  | _ => exact ⟨rfl, rfl⟩

theorem exists_readings {clauses : List (Clause × Text)}
    (h : ∀ clause ∈ clauses, clause.1.Printed clause.2 ∧ clause.1.Sound) :
    ∃ readings : List (Clause × Directive), readings.map Prod.fst = clauses.map Prod.fst ∧
      (∀ reading ∈ readings, reading.1.Means reading.2) ∧
      (clauses.map Prod.snd).filterMap effect? = readings.map Prod.snd ∧
      (clauses.map Prod.snd).filterMap fault? = [] := by
  induction clauses with
  | nil => exact ⟨[], rfl, by simp, rfl, rfl⟩
  | cons clause clauses ih =>
    obtain ⟨⟨hPrinted, hSound⟩, hClauses⟩ := List.forall_mem_cons.mp h
    obtain ⟨readings, hFirst, hMeans, hEffects, hFaults⟩ := ih hClauses
    obtain ⟨directive, hRead, hDirective⟩ := read_of_printed hPrinted hSound
    have hEffect : effect? clause.2 = some directive := by rw [effect?, hRead]
    have hFault : fault? clause.2 = none := by rw [fault?, hRead]
    refine ⟨(clause.1, directive) :: readings, by simp [hFirst],
      List.forall_mem_cons.mpr ⟨hDirective, hMeans⟩, ?_, ?_⟩
    · rw [List.map_cons, List.filterMap_cons_some hEffect, hEffects, List.map_cons]
    · rw [List.map_cons, List.filterMap_cons_none hFault, hFaults]

end Clause

structure Definition where
  name : Text
  protocol : Protocol
  payload : Bytes
  ports : PortSet
  sslPorts : PortSet
  rarity : Option Nat
  totalWait : Option UInt64
  tcpWrapped : Option UInt64
  fallback : List Text
  rules : List Rule.Definition
  name_isWord : IsWord name
  ports_unfilled : ports.filled = false
  sslPorts_unfilled : sslPorts.filled = false
  rarity_bounds : ∀ value ∈ rarity, 1 ≤ value ∧ value ≤ 9
  fallback_words : ∀ name ∈ fallback, IsWord name ∧ ',' ∉ name

namespace Definition

def probe (d : Definition) : Probe where
  name := String.ofList d.name
  protocol := d.protocol
  payload := d.payload
  ports := d.ports
  sslPorts := d.sslPorts
  rarity := d.rarity
  totalWait := d.totalWait.map Duration.ofMillis
  tcpWrapped := d.tcpWrapped.map Duration.ofMillis
  fallback := d.fallback.map String.ofList
  rules := d.rules.map Rule.Definition.rule

def present (s : PortSet) : List PortSet := if s.isEmpty then [] else [s]

/-- Lists the clauses of a definition, each of them once and the rules in their order. -/
structure Lists (d : Definition) (clauses : List Clause) : Prop where
  rules : clauses.filterMap Clause.rule? = d.rules
  ports : clauses.filterMap Clause.ports? = present d.ports
  sslPorts : clauses.filterMap Clause.sslPorts? = present d.sslPorts
  rarity : clauses.filterMap Clause.rarity? = d.rarity.toList
  totalWait : clauses.filterMap Clause.totalWait? = d.totalWait.toList
  tcpWrapped : clauses.filterMap Clause.tcpWrapped? = d.tcpWrapped.toList
  fallback : clauses.filterMap Clause.fallback? = if d.fallback = [] then [] else [d.fallback]

/-- What follows the keyword of a header line with that spelling of the payload. -/
def headerTokens (d : Definition) (payload : Text) : List Text :=
  [d.protocol.tag.toList, d.name, 'q' :: '|' :: (payload ++ ['|'])]

def Printed (d : Definition) (lines : List Text) : Prop :=
  ∃ (header payload : Text) (clauses : List (Clause × Text)), Payload.Spelled d.payload payload ∧
    Spaced ("Probe".toList :: d.headerTokens payload) header ∧ d.Lists (clauses.map Prod.fst) ∧
    (∀ clause ∈ clauses, clause.1.Printed clause.2) ∧ lines = header :: clauses.map Prod.snd

variable {d : Definition}

theorem mem_present {s t : PortSet} (h : t ∈ present s) : t = s ∧ t.isEmpty = false := by
  unfold present at h
  split at h
  · cases h
  · rename_i hNonempty
    cases List.mem_singleton.mp h
    exact ⟨rfl, Bool.eq_false_iff.mpr hNonempty⟩

theorem Lists.sound {clauses : List Clause} (h : d.Lists clauses) : ∀ c ∈ clauses, c.Sound := by
  intro c hc
  cases c with
  | ports s =>
    have hIn : s ∈ present d.ports := h.ports ▸ List.mem_filterMap.mpr ⟨_, hc, rfl⟩
    exact (mem_present hIn).2
  | sslPorts s =>
    have hIn : s ∈ present d.sslPorts := h.sslPorts ▸ List.mem_filterMap.mpr ⟨_, hc, rfl⟩
    exact (mem_present hIn).2
  | rarity value =>
    have hIn : value ∈ d.rarity.toList := h.rarity ▸ List.mem_filterMap.mpr ⟨_, hc, rfl⟩
    exact d.rarity_bounds value (Option.mem_toList.mp hIn)
  | fallback names =>
    have hIn : names ∈ if d.fallback = [] then [] else [d.fallback] :=
      h.fallback ▸ List.mem_filterMap.mpr ⟨_, hc, rfl⟩
    split at hIn
    · cases hIn
    · rename_i hNonempty
      cases List.mem_singleton.mp hIn
      exact ⟨hNonempty, d.fallback_words⟩
  | rule _ | totalWait _ | tcpWrapped _ => trivial

/-! ## The header -/

def bare (d : Definition) : Probe :=
  { d.probe with
    ports := .empty, sslPorts := .empty, rarity := none, totalWait := none, tcpWrapped := none
    fallback := [], rules := [] }

theorem isWord_probe : IsWord "Probe".toList := by decide

theorem isWord_tag (protocol : Protocol) : IsWord protocol.tag.toList := by
  cases protocol <;> decide

theorem readProtocol_tag (protocol : Protocol) : readProtocol protocol.tag.toList = .ok protocol := by
  cases protocol <;> rfl

theorem tokens_of_spelled {payload : Text} (h : Payload.Spelled d.payload payload) :
    ∀ t ∈ d.headerTokens payload, IsTight t ∧ '\n' ∉ t := by
  have hWord {w : Text} (hw : IsWord w) : IsTight w ∧ '\n' ∉ w := ⟨hw.isTight, hw.free⟩
  have hStart : IsWord ['q'] := by decide
  have hEnd : IsWord ['|'] := by decide
  have hPayload : '\n' ∉ payload := fun hIn => absurd (h.mem hIn).1.low (by decide)
  refine List.forall_mem_cons.mpr ⟨hWord (isWord_tag _), ?_⟩
  refine List.forall_mem_cons.mpr ⟨hWord d.name_isWord, ?_⟩
  exact List.forall_mem_singleton.mpr
    ⟨hStart.isTight.between hEnd.isTight ('|' :: payload), by simp [hPayload]⟩

theorem ofHeader_of_printed {payload header : Text} (hPayload : Payload.Spelled d.payload payload)
    (hHeader : Spaced ("Probe".toList :: d.headerTokens payload) header) : ofHeader header = .ok d.bare := by
  have hTokens := tokens_of_spelled hPayload
  have hTight : ∀ t ∈ d.headerTokens payload, IsTight t := fun t ht => (hTokens t ht).1
  obtain ⟨_, hName⟩ := List.forall_mem_cons.mp hTight
  obtain ⟨_, hBody⟩ := List.forall_mem_cons.mp hName
  have hTrim := (hHeader.headed isWord_probe hTokens).isTight.trim
  obtain ⟨tail, rfl, hBlank, ⟨hNil, _⟩ | ⟨rest, hTail, hRest⟩⟩ := hHeader.exists_tail
  · cases hNil
  have hHead : tail.head?.any Text.isBlank = true := by
    obtain ⟨c, others, rfl⟩ := List.exists_cons_of_ne_nil (hTail.ne_nil (hRest.isTight hTight))
    exact hBlank c rfl
  have hKeyword : afterKeyword? ("Probe".toList ++ tail) = some tail := by
    rw [afterKeyword?, hTrim, Text.after?_eq_some_iff.mpr rfl, Option.filter_some, if_pos hHead]
  obtain ⟨afterTag, paddedTag, hFirst, hPadTag, hAfterTag⟩ := hRest.nextWord? (isWord_tag _) hTail hName
  obtain ⟨afterName, paddedName, hSecond, hPadName, hAfterName⟩ :=
    hAfterTag.nextWord? d.name_isWord hPadTag hBody
  have hRaw : payloadText? paddedName.trimStart = some payload := by
    rw [hPadName.trimStart (hAfterName.isTight hBody), hAfterName.eq_of_singleton, payloadText?]
    have hBar : '|' ∉ payload := fun hIn => (hPayload.mem hIn).2 rfl
    simp [Text.after?, Text.delimited?_of_not_mem hBar]
  have hDecode : readPayload payload = .ok d.payload := by
    rw [readPayload, Payload.decode_of_spelled hPayload]
    rfl
  unfold ofHeader
  simp only [hKeyword, orFault, pure, Except.pure, bind, Except.bind, hFirst, readProtocol_tag,
    hSecond, hRaw, hDecode]
  rfl

/-! ## The clauses -/

theorem filterMap_readings {γ δ : Type} {f : Clause → Option γ} {g : Directive → Option δ} {k : γ → δ}
    {readings : List (Clause × Directive)}
    (h : ∀ reading ∈ readings, g reading.2 = (f reading.1).map k) :
    (readings.map Prod.snd).filterMap g = ((readings.map Prod.fst).filterMap f).map k := by
  rw [List.filterMap_map, List.map_filterMap, List.filterMap_map]
  exact List.filterMap_congr h

theorem contains_readings {f : Clause → Option PortSet} {g : Directive → List PortRange} {port : Port}
    {readings : List (Clause × Directive)}
    (h : ∀ reading ∈ readings, ((g reading.2).any fun range => decide (range.Mem port)) =
      (f reading.1).any (PortSet.contains · port)) :
    (((readings.map Prod.snd).flatMap g).foldl PortSet.insertRange .empty).contains port =
      ((readings.map Prod.fst).filterMap f).any (PortSet.contains · port) := by
  rw [PortSet.contains_foldl_insertRange, PortSet.contains_empty, Bool.false_or]
  induction readings with
  | nil => rfl
  | cons reading readings ih =>
    obtain ⟨hReading, hReadings⟩ := List.forall_mem_cons.mp h
    rw [List.map_cons, List.flatMap_cons, List.any_append, hReading, ih hReadings, List.map_cons]
    cases hFirst : f reading.1 with
    | none => simp [hFirst]
    | some s => simp [hFirst]

theorem any_present (s : PortSet) (port : Port) :
    (present s).any (PortSet.contains · port) = s.contains port := by
  unfold present
  split
  · rename_i hEmpty
    rw [PortSet.eq_empty_of_isEmpty hEmpty, PortSet.contains_empty, List.any_nil]
  · simp

theorem getLast?_toList {α : Type} (o : Option α) : o.toList.getLast? = o := by
  cases o <;> rfl

theorem putAll_readings {readings : List (Clause × Directive)}
    (hLists : d.Lists (readings.map Prod.fst))
    (hMeans : ∀ reading ∈ readings, reading.1.Means reading.2) :
    d.bare.putAll (readings.map Prod.snd) = d.probe := by
  -- the ranges that are read may differ from those of the definition; the ports they hold do not
  have hUnfilled (ranges : List PortRange) := PortSet.filled_foldl_insertRange ranges .empty
  have hPorts : ((readings.map Prod.snd).flatMap Directive.portRanges).foldl PortSet.insertRange
      .empty = d.ports := by
    refine PortSet.eq_of_contains (hUnfilled _) d.ports_unfilled fun port => ?_
    have hContains := fun reading hIn => ((hMeans reading hIn).any_portRanges port).1
    rw [contains_readings hContains, hLists.ports, any_present]
  have hSslPorts : ((readings.map Prod.snd).flatMap Directive.sslPortRanges).foldl
      PortSet.insertRange .empty = d.sslPorts := by
    refine PortSet.eq_of_contains (hUnfilled _) d.sslPorts_unfilled fun port => ?_
    have hContains := fun reading hIn => ((hMeans reading hIn).any_portRanges port).2
    rw [contains_readings hContains, hLists.sslPorts, any_present]
  have hRules := filterMap_readings fun reading hIn => (hMeans reading hIn).parts.1
  have hRarity := filterMap_readings fun reading hIn => (hMeans reading hIn).parts.2.1
  have hTotalWait := filterMap_readings fun reading hIn => (hMeans reading hIn).parts.2.2.1
  have hTcpWrapped := filterMap_readings fun reading hIn => (hMeans reading hIn).parts.2.2.2.1
  have hFallback := filterMap_readings fun reading hIn => (hMeans reading hIn).parts.2.2.2.2
  rw [hLists.rules] at hRules
  rw [hLists.rarity] at hRarity
  rw [hLists.totalWait] at hTotalWait
  rw [hLists.tcpWrapped] at hTcpWrapped
  rw [hLists.fallback] at hFallback
  rw [putAll_eq]
  have hNames : ((if d.fallback = [] then [] else [d.fallback]).map (List.map String.ofList)).getLast?.getD
      [] = d.fallback.map String.ofList := by
    split
    · rename_i hNil
      rw [hNil]
      rfl
    · rfl
  simp only [bare, probe, hPorts, hSslPorts, hRules, hRarity, hTotalWait, hTcpWrapped, hFallback, hNames,
    List.nil_append, ← Option.toList_map, getLast?_toList, Option.or_none, Option.map_id, id]

/-! ## Every definition can be printed -/

def clauses (d : Definition) : List Clause :=
  (present d.ports).map .ports ++ (present d.sslPorts).map .sslPorts ++ d.rarity.toList.map .rarity ++
    d.totalWait.toList.map .totalWait ++ d.tcpWrapped.toList.map .tcpWrapped ++
    (if d.fallback = [] then [] else [d.fallback]).map .fallback ++ d.rules.map .rule

theorem lists_clauses (d : Definition) : d.Lists d.clauses := by
  constructor <;>
    simp [clauses, List.filterMap_append, List.filterMap_map, Function.comp_def, Clause.rule?,
      Clause.ports?, Clause.sslPorts?, Clause.rarity?, Clause.totalWait?, Clause.tcpWrapped?, Clause.fallback?]

theorem exists_printed (d : Definition) : ∃ lines, d.Printed lines := by
  obtain ⟨payload, hPayload⟩ := Payload.exists_spelled d.payload
  obtain ⟨header, hHeader⟩ := Spaced.exists_of_ne_nil (List.cons_ne_nil "Probe".toList
    [d.protocol.tag.toList, d.name, 'q' :: '|' :: (payload ++ ['|'])])
  obtain ⟨printed, hFirst, hPrinted⟩ := Clause.exists_all_printed d.lists_clauses.sound
  exact ⟨_, header, payload, printed, hPayload, hHeader, hFirst ▸ d.lists_clauses, hPrinted, rfl⟩

/-! ## The lines of a printed probe -/

theorem lines_of_printed {lines : List Text} (h : d.Printed lines) :
    ∃ header body, lines = header :: body ∧ Headed "Probe".toList header ∧
      ∀ line ∈ body, ∃ w ∈ Clause.directiveWords, Headed w line := by
  obtain ⟨header, payload, clauses, hPayload, hHeader, hLists, hPrinted, rfl⟩ := h
  have hHeaded := hHeader.headed isWord_probe (tokens_of_spelled hPayload)
  refine ⟨header, _, rfl, hHeaded, fun line hIn => ?_⟩
  obtain ⟨clause, hClause, rfl⟩ := List.mem_map.mp hIn
  have hSound := hLists.sound _ (List.mem_map_of_mem hClause)
  exact Clause.headed_of_printed (hPrinted clause hClause) hSound

theorem compile_of_printed {lines : List Text} (h : d.Printed lines) :
    compile lines = .ok (d.probe, []) := by
  obtain ⟨header, payload, clauses, hPayload, hHeader, hLists, hPrinted, rfl⟩ := h
  obtain ⟨readings, hFirst, hMeans, hEffects, hFaults⟩ := Clause.exists_readings fun clause hIn =>
    ⟨hPrinted clause hIn, hLists.sound _ (List.mem_map_of_mem hIn)⟩
  rw [compile_of_header (ofHeader_of_printed hPayload hHeader), hEffects, hFaults,
    putAll_readings (hFirst ▸ hLists) hMeans]

end Definition
end ServiceProbe.Probe
