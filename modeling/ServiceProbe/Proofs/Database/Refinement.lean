import ServiceProbe.Proofs.Database.Block
import ServiceProbe.Proofs.Registry.Sequence

/-! # What loading a database does

Reading the lines one after the other comes to a sequence of calls on the empty registry, each due at
a place that the blocks fix: an exclusion at its own line, a block at the line of the next header or
at the end of the text. -/

namespace ServiceProbe.Database
set_option autoImplicit false

open Registry (attempt perform callsBefore registered? expression? holds FailsFirst)

def compiled? (block : List Text) : Option Probe := (Probe.compile block).toOption.map (·.1)

def openBlock? (kept : List Text) : Option (List Text) := (blocks kept).getLast?

def ending (block : Option (List Text)) : Option Registry.Call := (block.bind compiled?).map .register

def callFor (block : Option (List Text)) (line : Text) : Option Registry.Call :=
  if isExclude line then some (.exclude (afterWord line))
  else if isHeader line then ending block
  else none

def blockAfter (block : Option (List Text)) (line : Text) : Option (List Text) :=
  if isExclude line then block
  else if isHeader line then some [line]
  else block.map (· ++ [line])

/-- The call that is due at a place among kept lines. Behind them all the last block ends. -/
def callAt (kept : List Text) (place : Nat) : Option Registry.Call :=
  match kept[place]? with
  | some line => callFor (openBlock? (kept.take place)) line
  | none => ending (openBlock? (kept.take place))

section

variable (kept : List Text) {line : Text}

theorem blocks_concat_exclude (h : isExclude line = true) : blocks (kept ++ [line]) = blocks kept := by
  rw [blocks, List.filter_append, List.filter_singleton, h]
  exact congrArg blocksOf (List.append_nil _)

theorem blocks_concat_header (hExclude : isExclude line = false) (hHeader : isHeader line = true) :
    blocks (kept ++ [line]) = blocks kept ++ [[line]] := by
  rw [blocks, List.filter_append, List.filter_singleton, hExclude]
  exact blocksOf_concat_header _ hHeader

theorem blocks_concat_body (hExclude : isExclude line = false) (hHeader : isHeader line = false) :
    blocks (kept ++ [line]) =
      (blocks kept).dropLast ++ ((openBlock? kept).map (· ++ [line])).toList := by
  rw [blocks, List.filter_append, List.filter_singleton, hExclude]
  exact blocksOf_concat_body _ hHeader

theorem dropLast_append_openBlock? :
    (blocks kept).dropLast ++ (openBlock? kept).toList = blocks kept := by
  cases h : openBlock? kept with
  | none => simp [List.getLast?_eq_none_iff.mp h]
  | some block => exact List.dropLast_append_getLast? block h

theorem openBlock?_concat (line : Text) :
    openBlock? (kept ++ [line]) = blockAfter (openBlock? kept) line := by
  unfold blockAfter
  cases hExclude : isExclude line with
  | true => rw [openBlock?, blocks_concat_exclude kept hExclude, if_pos rfl, openBlock?]
  | false =>
    rw [if_neg Bool.false_ne_true]
    cases hHeader : isHeader line with
    | true =>
      rw [openBlock?, blocks_concat_header kept hExclude hHeader, List.getLast?_concat, if_pos rfl]
    | false =>
      rw [openBlock?, blocks_concat_body kept hExclude hHeader, if_neg Bool.false_ne_true]
      cases hOpen : openBlock? kept with
      | none => simp [List.getLast?_eq_none_iff.mp hOpen]
      | some block => simp

theorem callAt_concat_of_lt (line : Text) {place : Nat} (h : place < kept.length) :
    callAt (kept ++ [line]) place = callAt kept place := by
  unfold callAt
  rw [List.getElem?_append_left h, List.take_append_of_le_length (Nat.le_of_lt h)]

theorem callsBefore_concat (line : Text) :
    callsBefore (callAt (kept ++ [line])) (kept.length + 1) =
      callsBefore (callAt kept) kept.length ++ (callFor (openBlock? kept) line).toList := by
  have hLast : callAt (kept ++ [line]) kept.length = callFor (openBlock? kept) line := by
    simp [callAt]
  have hBefore : callsBefore (callAt (kept ++ [line])) kept.length =
      callsBefore (callAt kept) kept.length :=
    List.filterMap_congr fun place hPlace =>
      callAt_concat_of_lt kept line (List.mem_range.mp hPlace)
  rw [Registry.callsBefore_succ, hLast, hBefore]

theorem callsBefore_end :
    callsBefore (callAt kept) (kept.length + 1) =
      callsBefore (callAt kept) kept.length ++ (ending (openBlock? kept)).toList := by
  rw [Registry.callsBefore_succ, callAt, List.getElem?_eq_none (Nat.le_refl _), List.take_length]

theorem filterMap_registered?_ending (block : Option (List Text)) :
    (ending block).toList.filterMap registered? = block.toList.filterMap compiled? := by
  cases block with
  | none => rfl
  | some lines =>
    rw [ending, Option.bind_some]
    cases h : compiled? lines <;> simp [h, registered?]

theorem filterMap_expression?_ending (block : Option (List Text)) :
    (ending block).toList.filterMap expression? = [] := by
  rw [ending]
  cases block.bind compiled? <;> simp [expression?]

/-- Of the blocks that have a line after them, those that compile have been registered. -/
theorem registered_callsBefore (lines : List Text) :
    (callsBefore (callAt lines) lines.length).filterMap registered? =
      (blocks lines).dropLast.filterMap compiled? := by
  induction lines using List.reverseRecOn with
  | nil => rfl
  | append_singleton lines line ih =>
    rw [List.length_append, List.length_singleton, callsBefore_concat, List.filterMap_append, ih,
      callFor]
    cases hExclude : isExclude line with
    | true =>
      rw [blocks_concat_exclude lines hExclude, if_pos rfl]
      exact List.append_nil _
    | false =>
      rw [if_neg Bool.false_ne_true]
      cases hHeader : isHeader line with
      | true =>
        rw [blocks_concat_header lines hExclude hHeader, List.dropLast_concat, if_pos rfl,
          filterMap_registered?_ending, ← List.filterMap_append, dropLast_append_openBlock?]
      | false =>
        rw [blocks_concat_body lines hExclude hHeader, if_neg Bool.false_ne_true]
        cases hOpen : openBlock? lines with
        | none => simp [List.getLast?_eq_none_iff.mp hOpen]
        | some block => simp

theorem excluded_callsBefore (lines : List Text) :
    (callsBefore (callAt lines) lines.length).filterMap expression? = exclusions lines := by
  induction lines using List.reverseRecOn with
  | nil => rfl
  | append_singleton lines line ih =>
    rw [List.length_append, List.length_singleton, callsBefore_concat, List.filterMap_append, ih,
      callFor, exclusions, exclusions, List.filter_append, List.map_append, List.filter_singleton]
    congr 1
    cases hExclude : isExclude line with
    | true => rfl
    | false =>
      rw [if_neg Bool.false_ne_true]
      split
      · exact filterMap_expression?_ending _
      · rfl

theorem parts_callsBefore :
    (callsBefore (callAt kept) (kept.length + 1)).filterMap registered? =
        (blocks kept).filterMap compiled? ∧
      (callsBefore (callAt kept) (kept.length + 1)).filterMap expression? = exclusions kept := by
  rw [callsBefore_end, List.filterMap_append, List.filterMap_append, registered_callsBefore,
    excluded_callsBefore, filterMap_registered?_ending, filterMap_expression?_ending,
    ← List.filterMap_append, dropLast_append_openBlock?, List.append_nil]
  exact ⟨rfl, rfl⟩

end

section

/-- A reading without its warnings. -/
def outline (x : Except Refusal Reading) : Except Error (Registry × Option (List Text)) :=
  (x.mapError (·.error)).map fun r => (r.registry, r.block)

/-- Makes the call that is due, if any, and goes on with a block. -/
def after (r : Registry) (c? : Option Registry.Call) (block : Option (List Text)) :
    Except Error (Registry × Option (List Text)) :=
  (c?.elim (pure r) (attempt r)).map fun next => (next, block)

variable {x : Except Refusal Reading} {y : Except Error Registry} {block : Option (List Text)}

theorem outline_eq_cases (h : outline x = y.map fun s => (s, block)) :
    (∃ refusal, x = .error refusal ∧ y = .error refusal.error) ∨
      ∃ r, x = .ok r ∧ y = .ok r.registry ∧ block = r.block := by
  cases x with
  | error refusal =>
    cases y with
    | error e =>
      cases h
      exact .inl ⟨refusal, rfl, rfl⟩
    | ok s => cases h
  | ok r =>
    cases y with
    | error e => cases h
    | ok s =>
      cases h
      exact .inr ⟨r, rfl, rfl, rfl⟩

theorem outline_bind (h : outline x = y.map fun s => (s, block))
    {f : Reading → Except Refusal Reading} {c? : Option Registry.Call} {next : Option (List Text)}
    (hf : ∀ r, r.block = block → outline (f r) = after r.registry c? next) :
    outline (x >>= f) = (y >>= fun s => c?.elim (pure s) s.attempt).map fun s => (s, next) := by
  rcases outline_eq_cases h with ⟨refusal, rfl, rfl⟩ | ⟨r, rfl, rfl, hBlock⟩
  · rfl
  · exact hf r hBlock.symm

variable (r : Reading)

theorem outline_settle (c : Registry.Call) :
    outline (r.settle (r.registry.call c)) = after r.registry (some c) r.block := by
  rw [after, Option.elim_some, attempt]
  rcases r.registry.call c with ⟨next, _ | e⟩ <;> rfl

theorem outline_close : outline r.close = after r.registry (ending r.block) none := by
  cases r with
  | mk registry block warnings =>
    cases block with
    | none => rfl
    | some lines =>
      simp only [Reading.close, Reading.flush]
      cases hCompile : Probe.compile lines with
      | error fault =>
        have hEnding : ending (some lines) = none := by
          simp [ending, compiled?, hCompile, Except.toOption]
        rw [hEnding]
        rfl
      | ok compiled =>
        obtain ⟨p, faults⟩ := compiled
        have hEnding : ending (some lines) = some (.register p) := by
          simp [ending, compiled?, hCompile, Except.toOption]
        rw [hEnding]
        exact outline_settle (Reading.warn ⟨registry, none, warnings⟩ _) (.register p)

theorem outline_bind_pure {r : Registry} {c? : Option Registry.Call}
    (h : outline x = after r c? block) (next : Option (List Text)) :
    outline (x >>= fun s => pure { s with block := next }) = after r c? next := by
  unfold after at h ⊢
  generalize c?.elim (pure r) (attempt r) = y at h ⊢
  rcases outline_eq_cases h with ⟨refusal, rfl, rfl⟩ | ⟨s, rfl, rfl, _⟩
  · rfl
  · rfl

theorem outline_step_of_kept {line : Text} (number : Nat) (h : isKept line = true) :
    outline (r.step number line) =
      after r.registry (callFor r.block line) (blockAfter r.block line) := by
  unfold Reading.step callFor blockAfter isExclude isHeader
  rw [keyword?_of_kept h]
  cases hWord : firstWord? line with
  | none => simp [isKept, hWord] at h
  | some word =>
    simp only [beq_iff_eq, Option.some.injEq]
    by_cases hExclude : word = "Exclude".toList
    · simp only [hExclude, if_true, excludeArgument_eq]
      exact outline_settle r (.exclude _)
    · simp only [hExclude, if_false]
      by_cases hHeader : word = "Probe".toList
      · simp only [hHeader, if_true]
        exact outline_bind_pure (outline_close r) _
      · simp only [hHeader, if_false]
        cases r with
        | mk registry block warnings => cases block <;> rfl

theorem outline_step_of_not_kept {line : Text} (number : Nat) (h : isKept line = false) :
    outline (r.step number line) = .ok (r.registry, r.block) := by
  rw [Reading.step, keyword?_of_not_kept h]
  rfl

end

/-- What a reading has come to after some lines: the calls due so far have been made, and the block
that is open is that of the kept ones. -/
theorem outline_foldlM (lines : List (Text × Nat)) :
    outline (lines.foldlM (fun r (line, number) => r.step number line) Reading.start) =
      let kept := (lines.map (·.1)).filter isKept
      (perform (callsBefore (callAt kept) kept.length)).map fun r => (r, openBlock? kept) := by
  -- from the end, since the call that is due at a line depends on the lines before it
  induction lines using List.reverseRecOn with
  | nil => rfl
  | append_singleton lines entry ih =>
    obtain ⟨line, number⟩ := entry
    simp only [List.foldlM_append, List.foldlM_cons, List.foldlM_nil, bind_pure, List.map_append,
      List.map_cons, List.map_nil, List.filter_append, List.filter_singleton] at ih ⊢
    generalize (lines.map (·.1)).filter isKept = kept at ih ⊢
    cases hKept : isKept line with
    | true =>
      rw [cond_true, List.length_append, List.length_singleton, callsBefore_concat,
        Registry.perform_append, openBlock?_concat]
      refine outline_bind ih fun r hBlock => ?_
      rw [← hBlock]
      exact outline_step_of_kept r number hKept
    | false =>
      rw [cond_false, List.append_nil]
      have hStep : ∀ r : Reading, r.block = openBlock? kept →
          outline (r.step number line) = after r.registry none (openBlock? kept) := fun r hBlock =>
        hBlock ▸ outline_step_of_not_kept r number hKept
      have hBind := outline_bind ih hStep
      simp only [Option.elim_none, bind_pure] at hBind
      exact hBind

theorem parse_eq_outline (t : Text) :
    Registry.parse t = (outline ((numberedLines t).foldlM
      (fun r (line, number) => r.step number line) Reading.start >>= Reading.close)).map (·.1) := by
  unfold Registry.parse load
  generalize (numberedLines t).foldlM (fun r (line, number) => r.step number line) Reading.start = x
  cases x with
  | error refusal => rfl
  | ok r =>
    simp only [bind, Except.bind]
    cases r.close <;> rfl

theorem parse_eq_perform (t : Text) :
    Registry.parse t =
      perform (callsBefore (callAt (keptLines t)) ((keptLines t).length + 1)) := by
  have hLines : ((numberedLines t).map (·.1)).filter isKept = keptLines t := by
    rw [numberedLines, List.zipIdx_map_fst, keptLines]
  have hFold := outline_foldlM (numberedLines t)
  simp only [hLines] at hFold
  have hClose : ∀ r : Reading, r.block = openBlock? (keptLines t) →
      outline r.close = after r.registry (ending (openBlock? (keptLines t))) none := fun r hBlock =>
    hBlock ▸ outline_close r
  rw [parse_eq_outline, outline_bind hFold hClose, callsBefore_end, ← Registry.perform_append]
  cases perform _ <;> rfl

/-- A block compiles exactly when its header does, whatever its other lines say. -/
theorem compiled?_eq_none_iff (header : Text) (body : List Text) :
    compiled? (header :: body) = none ↔ ∃ fault, Probe.ofHeader header = .error fault := by
  rw [compiled?, Probe.compile]
  cases Probe.ofHeader header <;> simp [Except.map, Except.toOption]

theorem exists_error_iff {ε α : Type} {x : Except ε α} : (∃ e, x = .error e) ↔ ¬ ∃ a, x = .ok a := by
  cases x <;> simp

/-- The registry of a database, or the error that it ends with, by its blocks and exclusions. -/
theorem parse_refines_blocks (t : Text) :
    let kept := keptLines t
    let probes := (blocks kept).filterMap compiled?
    (∀ block ∈ blocks kept, ∃ header body, block = header :: body ∧ isHeader header = true ∧
        (∀ line ∈ body, isHeader line = false) ∧
        (compiled? block = none ↔ ∃ fault, Probe.ofHeader header = .error fault)) ∧
      (blocks kept).flatten = ((kept.filter fun line => !isExclude line).dropWhile fun line =>
        !isHeader line) ∧
      (∀ r, Registry.parse t = .ok r → r.Consistent ∧ r.probes = probes ∧
        ∀ port, r.isExcluded port = (exclusions kept).any (holds port)) ∧
      ((∃ e, Registry.parse t = .error e) ↔
        (∃ expression ∈ exclusions kept, ∃ fault, PortSet.parse expression = .error fault) ∨
          ¬ (probes.map Probe.name).Nodup) ∧
      ∀ e, Registry.parse t = .error e ↔ ∃ place ≤ kept.length, FailsFirst (callAt kept) place e := by
  intro kept probes
  obtain ⟨hProbes, hExclusions⟩ := parts_callsBefore kept
  have hParse : Registry.parse t = perform (callsBefore (callAt kept) (kept.length + 1)) :=
    parse_eq_perform t
  refine ⟨fun block hBlock => ?_, flatten_blocksOf _, fun r hr => ?_, ?_, fun e => ?_⟩
  · obtain ⟨header, body, rfl, hHeader, hBody⟩ := header_of_mem_blocksOf hBlock
    exact ⟨header, body, rfl, hHeader, hBody, compiled?_eq_none_iff header body⟩
  · rw [hParse] at hr
    obtain ⟨hRegistered, hExcluded⟩ := Registry.parts_of_perform hr
    rw [hProbes] at hRegistered
    rw [hExclusions] at hExcluded
    exact ⟨Registry.consistent_of_perform hr, hRegistered, hExcluded⟩
  · have hOk := Registry.exists_perform_iff (callsBefore (callAt kept) (kept.length + 1))
    rw [hProbes, hExclusions, ← hParse] at hOk
    rw [exists_error_iff, hOk, not_and_or]
    simp only [not_forall, exists_error_iff, exists_prop]
    exact Iff.rfl
  · rw [hParse, Registry.perform_callsBefore_eq_error_iff]
    simp only [Nat.lt_succ_iff]

end ServiceProbe.Database
