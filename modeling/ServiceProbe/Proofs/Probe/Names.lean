import ServiceProbe.Proofs.Database.Outcome
import ServiceProbe.Proofs.Probe.Rejection
import ServiceProbe.Proofs.Text.Separated

/-! # Names of compiled probes

The name of a probe is a word of its header line, and the names of its fallback probes are parts of
one line. None of them holds a line feed, whatever the database. -/

namespace ServiceProbe
set_option autoImplicit false

namespace Probe

variable {line argument : Text} {lines : List Text} {names : List String} {p : Probe}
  {faults : List ProbeFault}

theorem exists_of_compile (h : compile lines = .ok (p, faults)) : ∃ header body protocol name payload,
    lines = header :: body ∧ Text.IsWord name ∧
      p = (bare protocol name payload).putAll (body.filterMap effect?) := by
  cases lines with
  | nil => cases h
  | cons header body =>
    cases hHeader : ofHeader header with
    | error fault =>
      rw [compile, hHeader] at h
      cases h
    | ok declared =>
      obtain ⟨protocol, name, _, payload, hDeclares, _, rfl⟩ := exists_declares_of_ofHeader hHeader
      rw [compile_of_header hHeader] at h
      cases h
      exact ⟨header, body, protocol, name, payload, rfl, hDeclares.isWord, rfl⟩

theorem isWord_name_of_compile (h : compile lines = .ok (p, faults)) :
    Text.IsWord p.name.toList := by
  obtain ⟨_, _, _, name, _, _, hWord, rfl⟩ := exists_of_compile h
  rw [name_putAll, bare, String.toList_ofList]
  exact hWord

theorem mem_of_mem_argument {c : Char} (h : c ∈ (keywordAndArgument line).2) : c ∈ line := by
  unfold keywordAndArgument at h
  split at h
  · rename_i hCut
    exact Text.mem_of_cutAt? hCut (Text.mem_of_mem_trim h)
  · cases h

theorem feed_not_mem_of_readNames (h : readNames argument = .ok names) (hFree : '\n' ∉ argument) :
    ∀ name ∈ names, '\n' ∉ name.toList := by
  simp only [readNames] at h
  split at h
  · cases h
  · cases h
    intro name hName hFeed
    obtain ⟨trimmed, hTrimmed, rfl⟩ := List.mem_map.mp hName
    obtain ⟨part, hPart, rfl⟩ := List.mem_map.mp (List.mem_filter.mp hTrimmed).1
    rw [String.toList_ofList] at hFeed
    exact hFree (Text.mem_of_mem_splitOn hPart (Text.mem_of_mem_trim hFeed)).1

theorem feed_not_mem_of_effect? (h : effect? line = some (.fallback names)) (hFree : '\n' ∉ line) :
    ∀ name ∈ names, '\n' ∉ name.toList := by
  unfold effect? at h
  split at h
  · rename_i hRead
    cases h
    refine feed_not_mem_of_readNames (readNames_of_readDirective hRead) fun hFeed => hFree ?_
    exact Text.mem_of_mem_trim (mem_of_mem_argument hFeed)
  · cases h
    simp
  · cases h

theorem feed_not_mem_fallback (h : compile lines = .ok (p, faults))
    (hFree : ∀ line ∈ lines, '\n' ∉ line) : ∀ name ∈ p.fallback, '\n' ∉ name.toList := by
  obtain ⟨header, body, protocol, name, payload, rfl, _, rfl⟩ := exists_of_compile h
  rw [putAll_eq]
  simp only [bare, filterMap_fallback?_effect?]
  intro name hName
  cases hLast : (body.filterMap fallbackNames?).getLast? with
  | none =>
    rw [hLast] at hName
    cases hName
  | some names =>
    rw [hLast] at hName
    obtain ⟨line, hLine, hNames⟩ := List.mem_filterMap.mp (List.mem_of_getLast? hLast)
    obtain ⟨directive, hEffect, hFallback⟩ := Option.bind_eq_some_iff.mp hNames
    cases directive with
    | fallback found =>
      cases hFallback
      exact feed_not_mem_of_effect? hEffect (hFree line (List.mem_cons_of_mem _ hLine)) name hName
    | _ => cases hFallback

end Probe

namespace Database

theorem mem_of_mem_blocks {kept block : List Text} (hBlock : block ∈ blocks kept) {line : Text}
    (hLine : line ∈ block) : line ∈ kept := by
  have hFlat := List.mem_flatten.mpr ⟨block, hBlock, hLine⟩
  rw [blocks, flatten_blocksOf] at hFlat
  exact (List.mem_filter.mp (List.dropWhile_subset _ hFlat)).1

theorem names_of_parse {t : Text} {r : Registry} (h : Registry.parse t = .ok r) :
    ∀ p ∈ r.probes, Text.IsWord p.name.toList ∧ ∀ name ∈ p.fallback, '\n' ∉ name.toList := by
  intro p hp
  rw [probes_of_parse h] at hp
  obtain ⟨block, hBlock, hCompiled⟩ := List.mem_filterMap.mp hp
  rw [compiled?] at hCompiled
  cases hCompile : Probe.compile block with
  | error fault =>
    rw [hCompile] at hCompiled
    cases hCompiled
  | ok compiled =>
    obtain ⟨compiled, faults⟩ := compiled
    rw [hCompile] at hCompiled
    cases hCompiled
    refine ⟨Probe.isWord_name_of_compile hCompile, Probe.feed_not_mem_fallback hCompile ?_⟩
    intro line hLine
    exact Text.feed_not_mem_of_mem_lines (List.mem_filter.mp (mem_of_mem_blocks hBlock hLine)).1

end Database
end ServiceProbe
