import ServiceProbe.Proofs.Listing.Probes
import ServiceProbe.Proofs.Scan.Reference

/-! # The listing of one port

What is listed for a port is what a scan of it walks: when every exchange fails a scan makes one
request for each listed probe, in the order of the listing. The notices say when it makes none. -/

namespace ServiceProbe
set_option autoImplicit false

/-! ## Scans that fail throughout -/

namespace Scanner

def failing (errors : List Request → Request → Error) : Transport :=
  fun history request => .error (errors history request)

theorem run_walk_failing (s : Scanner) (errors : List Request → Request → Error) (target : Target)
    (ps : List Probe) (history : List Request) :
    (s.walk target ps).run (failing errors) history = (requests target ps, none) := by
  induction ps generalizing history with
  | nil => rfl
  | cons p ps ih =>
    have hReply : s.matchReply p (failing errors history (request p target)) = none := rfl
    simp only [walk, Dialogue.run, hReply, ih, requests_cons]

theorem candidates_of_no_threshold {s : Scanner} (h : s.registry.Consistent)
    (hAny : s.options.rarityThreshold = none) (port : Port) :
    s.candidates port = s.registry.probes.filter fun p => p.appliesTo port := by
  rw [candidates_eq_eligible h, eligible, hAny]
  refine List.filter_congr fun p _ => ?_
  cases p.rarity <;> simp

end Scanner

namespace Listing

open Text (IsWord IsRow)

variable {t : Text} {r : Registry} {port : Port}

/-! ## Rows -/

/-- The number and the name on a line of the listing. A notice has more words. -/
def entry? : List Text → Option (Text × Text)
  | [place, name, _, _] => some (place, name)
  | _ => none

/-- The numbered names of the listing of a port. -/
def entries (r : Registry) (port : Port) : List (Text × Text) :=
  (Text.cells (dispatch r port)).filterMap entry?

/-- A line of the listing has these words. -/
def Says (r : Registry) (port : Port) (notice : Text) : Prop :=
  Text.words notice ∈ Text.cells (dispatch r port)

def rowWords (r : Registry) (name : String) (place : Nat) : List Text :=
  [Text.ofNat place ++ ['.'], name.toList, "rarity".toList,
    rarityText ((r.probe? name).bind Probe.rarity)]

theorem isWord_numberAndDot (n : Nat) : IsWord (Text.ofNat n ++ ['.']) :=
  ⟨by simp, List.forall_mem_append.mpr ⟨(Text.isWord_ofNat n).solid, List.forall_mem_singleton.mpr rfl⟩⟩

theorem exclusionNotice_isRow (port : Port) : ∃ ws, IsRow ws (exclusionNotice port) ∧ ws.length = 11 := by
  have hLead : "Port ".toList = "Port".toList ++ [' '] := by decide
  have hEnd : " is excluded; scans skip it unless --no-exclude is given.\n".toList =
      ' ' :: ("is excluded; scans skip it unless --no-exclude is given.".toList ++ ['\n']) := by
    decide
  have hNumber := Text.isWord_ofNat port.toNat
  have hRow := ((Text.isRow_of_free (by decide :
    '\n' ∉ "is excluded; scans skip it unless --no-exclude is given.".toList)).behind
      hNumber.free).behind (by decide : '\n' ∉ "Port".toList)
  -- for texts at large, since simp would take the literals apart character by character
  have hSplit (lead number rest : Text) :
      lead ++ [' '] ++ number ++ ' ' :: rest = lead ++ ' ' :: (number ++ ' ' :: rest) := by
    simp
  have hNotice : exclusionNotice port = _ :=
    (congrArg₂ (fun lead rest => lead ++ Text.ofNat port.toNat ++ rest) hLead hEnd).trans (hSplit _ _ _)
  have hLength : (Text.words "Port".toList).length = 1 ∧ (Text.words
      "is excluded; scans skip it unless --no-exclude is given.".toList).length = 9 := by decide
  refine ⟨_, hNotice ▸ hRow, ?_⟩
  rw [List.length_append, List.length_append, hNumber.words_eq, hLength.1, hLength.2]
  rfl

theorem emptyNotice_isRow (port : Port) : ∃ ws, IsRow ws (emptyNotice port) ∧ ws.length = 6 := by
  have hLead : "No probes apply to port ".toList = "No probes apply to port".toList ++ [' '] := by
    decide
  have hNumber := isWord_numberAndDot port.toNat
  have hRow := (Text.isRow_of_free hNumber.free).behind
    (by decide : '\n' ∉ "No probes apply to port".toList)
  have hSplit (lead number : Text) :
      lead ++ [' '] ++ number ++ ['.', '\n'] = lead ++ ' ' :: (number ++ ['.'] ++ ['\n']) := by
    simp
  have hNotice : emptyNotice port = _ :=
    (congrArg (fun lead => lead ++ Text.ofNat port.toNat ++ ['.', '\n']) hLead).trans (hSplit _ _)
  have hLength : (Text.words "No probes apply to port".toList).length = 5 := by decide
  refine ⟨_, hNotice ▸ hRow, ?_⟩
  rw [List.length_append, hNumber.words_eq, hLength]
  rfl

theorem isRow_dispatchRow (r : Registry) (place : Nat) {name : String} (h : IsWord name.toList) :
    IsRow (rowWords r name place) (dispatchRow r place name) := by
  have hMark : " rarity ".toList = ' ' :: ("rarity".toList ++ [' ']) := by decide
  have hPlace := isWord_numberAndDot place
  have hRarity := isWord_rarityText ((r.probe? name).bind Probe.rarity)
  have hPlaceFree : '\n' ∉ (Text.ofNat place).leftpad 3 ' ' ++ ['.'] := by
    simp [List.leftpad, (Text.isWord_ofNat place).free]
  have hRow := (((Text.isRow_of_free hRarity.free).behind (by decide : '\n' ∉ "rarity".toList)).behind
    (mt Text.feed_mem_pad.mp h.free : '\n' ∉ Report.pad 22 name.toList)).behind hPlaceFree
  have hSplit (number name mark rarity : Text) :
      number ++ ['.', ' '] ++ name ++ ' ' :: (mark ++ [' ']) ++ rarity ++ ['\n'] =
        number ++ ['.'] ++ ' ' :: (name ++ ' ' :: (mark ++ ' ' :: (rarity ++ ['\n']))) := by
    simp
  have hText : dispatchRow r place name = _ :=
    (congrArg (fun mark => (Text.ofNat place).leftpad 3 ' ' ++ ['.', ' '] ++
      Report.pad 22 name.toList ++ mark ++ rarityText ((r.probe? name).bind Probe.rarity) ++ ['\n'])
        hMark).trans (hSplit _ _ _ _)
  have hWord : Text.words "rarity".toList = ["rarity".toList] := by decide
  rw [Text.words_leftpad_append, hPlace.words_eq, Text.words_pad h, hWord, hRarity.words_eq] at hRow
  rw [hText]
  exact hRow

/-! ## The whole listing -/

theorem cells_dispatchBody (hNames : ∀ name ∈ r.dispatch port, IsWord name.toList) :
    Text.cells (dispatchBody r port) =
      if r.dispatch port = [] then [Text.words (emptyNotice port)]
      else ((r.dispatch port).zipIdx 1).map fun entry => rowWords r entry.1 entry.2 := by
  unfold dispatchBody
  split
  · rename_i hNone
    obtain ⟨ws, hRow, _⟩ := emptyNotice_isRow port
    have hCells := Text.cells_append hRow []
    rw [List.append_nil] at hCells
    rw [if_pos hNone, hCells, hRow.words_eq]
    rfl
  · rename_i hSome
    rw [if_neg hSome]
    have hRows : ∀ entry ∈ (r.dispatch port).zipIdx 1,
        IsRow (rowWords r entry.1 entry.2) (dispatchRow r entry.2 entry.1) := by
      intro entry hEntry
      exact isRow_dispatchRow r entry.2 (hNames _ (List.fst_mem_of_mem_zipIdx hEntry))
    have hCells := Text.cells_flatMap hRows []
    rw [List.append_nil] at hCells
    exact hCells.trans (List.append_nil _)

theorem cells_dispatch (hNames : ∀ name ∈ r.dispatch port, IsWord name.toList) :
    Text.cells (dispatch r port) =
      (if r.isExcluded port then [Text.words (exclusionNotice port)] else []) ++
        if r.dispatch port = [] then [Text.words (emptyNotice port)]
        else ((r.dispatch port).zipIdx 1).map fun entry => rowWords r entry.1 entry.2 := by
  rw [← cells_dispatchBody hNames, dispatch]
  split
  · obtain ⟨ws, hRow, _⟩ := exclusionNotice_isRow port
    rw [Text.cells_append hRow, hRow.words_eq]
    rfl
  · rfl

/-! ## Telling the lines apart

A row has four words and the notices have six and eleven, so none is taken for another. -/

theorem length_exclusionNotice (port : Port) : (Text.words (exclusionNotice port)).length = 11 := by
  obtain ⟨ws, hRow, hLength⟩ := exclusionNotice_isRow port
  rw [hRow.words_eq, hLength]

theorem length_emptyNotice (port : Port) : (Text.words (emptyNotice port)).length = 6 := by
  obtain ⟨ws, hRow, hLength⟩ := emptyNotice_isRow port
  rw [hRow.words_eq, hLength]

theorem says_exclusionNotice_iff (hNames : ∀ name ∈ r.dispatch port, IsWord name.toList) :
    Says r port (exclusionNotice port) ↔ r.isExcluded port = true := by
  have hLength := length_exclusionNotice port
  rw [Says, cells_dispatch hNames, List.mem_append]
  constructor
  · rintro (hNotice | hBody)
    · by_contra hOpen
      rw [if_neg hOpen] at hNotice
      cases hNotice
    · split at hBody
      · rw [List.mem_singleton.mp hBody, length_emptyNotice] at hLength
        cases hLength
      · obtain ⟨entry, _, hRow⟩ := List.mem_map.mp hBody
        rw [← hRow] at hLength
        cases hLength
  · intro hExcluded
    rw [if_pos hExcluded]
    exact .inl List.mem_cons_self

theorem says_emptyNotice_iff (hNames : ∀ name ∈ r.dispatch port, IsWord name.toList) :
    Says r port (emptyNotice port) ↔ r.dispatch port = [] := by
  have hLength := length_emptyNotice port
  rw [Says, cells_dispatch hNames, List.mem_append]
  constructor
  · rintro (hNotice | hBody)
    · split at hNotice
      · rw [List.mem_singleton.mp hNotice, length_exclusionNotice] at hLength
        cases hLength
      · cases hNotice
    · by_contra hSome
      rw [if_neg hSome] at hBody
      obtain ⟨entry, _, hRow⟩ := List.mem_map.mp hBody
      rw [← hRow] at hLength
      cases hLength
  · intro hNone
    rw [if_pos hNone]
    exact .inr List.mem_cons_self

theorem entry?_eq_none {ws : List Text} (h : ws.length ≠ 4) : entry? ws = none := by
  unfold entry?
  split
  · exact absurd rfl h
  · rfl

theorem entries_eq (hNames : ∀ name ∈ r.dispatch port, IsWord name.toList) :
    entries r port = ((r.dispatch port).zipIdx 1).map fun entry =>
      (Text.ofNat entry.2 ++ ['.'], entry.1.toList) := by
  have hExclusion : entry? (Text.words (exclusionNotice port)) = none :=
    entry?_eq_none (by rw [length_exclusionNotice]; decide)
  have hEmpty : entry? (Text.words (emptyNotice port)) = none :=
    entry?_eq_none (by rw [length_emptyNotice]; decide)
  have hLead : (if r.isExcluded port then [Text.words (exclusionNotice port)] else []).filterMap
      entry? = [] := by
    split
    · rw [List.filterMap_cons_none hExclusion, List.filterMap_nil]
    · rfl
  rw [entries, cells_dispatch hNames, List.filterMap_append, hLead, List.nil_append]
  split
  · rename_i hNone
    rw [List.filterMap_cons_none hEmpty, List.filterMap_nil, hNone]
    rfl
  · have hRow : entry? ∘ (fun entry : String × Nat => rowWords r entry.1 entry.2) =
        some ∘ fun entry => (Text.ofNat entry.2 ++ ['.'], entry.1.toList) := rfl
    rw [List.filterMap_map, hRow, List.filterMap_eq_map]

/-! ## Listing and scanning -/

theorem refuses_of_honoring {s : Scanner} (h : s.options.honorExclude = true) (port : Port) :
    s.refuses port = s.registry.isExcluded port := by
  rw [Scanner.refuses, h, Bool.true_and]

/-- The names listed for a port, numbered from one, are those of the probes that a scan without a
threshold walks there when every exchange fails. The notices are printed exactly when it makes no
exchange, and when a scan that honors exclusions makes none either; if the port is not excluded such
a scan does what any other does. -/
theorem dispatch_lists_walk (h : Registry.parse t = .ok r) (options : ScanOptions) (target : Target) :
    let port := target.port
    let every : Scanner := ⟨r, { options with rarityThreshold := none, honorExclude := false }⟩
    let honoring : Scanner := ⟨r, { options with honorExclude := true }⟩
    let heedless : Scanner := ⟨r, { options with honorExclude := false }⟩
    (∃ ps : List Probe, (∀ p ∈ ps, r.probe? p.name = some p) ∧
      entries r port = (ps.zipIdx 1).map (fun (p, place) =>
        (Text.ofNat place ++ ['.'], p.name.toList)) ∧
      ∀ errors history, (every.scan target).run (Scanner.failing errors) history =
        (Scanner.requests target ps, none)) ∧
    (∀ errors history, Says r port (emptyNotice port) ↔
      ((every.scan target).run (Scanner.failing errors) history).1 = []) ∧
    (Says r port (exclusionNotice port) → ∀ transport history,
      ((honoring.scan target).run transport history).1 = []) ∧
    (¬ Says r port (exclusionNotice port) → ∀ transport history,
      (honoring.scan target).run transport history = (heedless.scan target).run transport history) := by
  intro port every honoring heedless
  have hConsistent := Database.consistent_of_parse h
  let ps := r.probes.filter fun p => p.appliesTo port
  have hDispatch : r.dispatch port = ps.map Probe.name := hConsistent.dispatch_eq port
  have hNames : ∀ name ∈ r.dispatch port, IsWord name.toList := by
    intro name hName
    rw [hDispatch] at hName
    obtain ⟨p, hp, rfl⟩ := List.mem_map.mp hName
    exact (Database.names_of_parse h p (List.mem_filter.mp hp).1).1
  have hRun (errors : List Request → Request → Error) (history : List Request) :
      (every.scan target).run (Scanner.failing errors) history = (Scanner.requests target ps, none) := by
    have hOpen : every.refuses target.port = false := rfl
    rw [Scanner.scan, hOpen, if_neg Bool.false_ne_true,
      Scanner.candidates_of_no_threshold hConsistent rfl, Scanner.run_walk_failing]
  refine ⟨⟨ps, ?_, ?_, hRun⟩, ?_, ?_, ?_⟩
  · intro p hp
    exact hConsistent.probe?_eq_some_iff.mpr ⟨(List.mem_filter.mp hp).1, rfl⟩
  · rw [entries_eq hNames, hDispatch, List.zipIdx_map, List.map_map]
    rfl
  · intro errors history
    rw [says_emptyNotice_iff hNames, hRun, hDispatch, Scanner.requests, List.map_eq_nil_iff,
      List.map_eq_nil_iff]
  · intro hNotice transport history
    have hExcluded := (says_exclusionNotice_iff hNames).mp hNotice
    rw [Scanner.scan, refuses_of_honoring rfl, if_pos hExcluded]
    rfl
  · intro hNotice transport history
    have hOpen := mt (says_exclusionNotice_iff hNames).mpr hNotice
    have hHeedless : heedless.refuses target.port = false := rfl
    have hWalk (ps : List Probe) : honoring.walk target ps = heedless.walk target ps :=
      Scanner.walk_congr fun _ _ => rfl
    rw [Scanner.scan, Scanner.scan, refuses_of_honoring rfl, if_neg hOpen, hHeedless,
      if_neg Bool.false_ne_true, hWalk]
    rfl

/-- An excluded port that two probes apply to, one of them rare. -/
def guarding : Text := "Exclude 80\nProbe TCP A q|x|\nProbe TCP B q|y|\nports 80\nrarity 9\n".toList

theorem exists_parse_guarding : ∃ r, Registry.parse guarding = .ok r ∧ r.isExcluded 80 = true ∧
    r.dispatch 80 = ["A", "B"] := by
  have hExclusions : Database.exclusions (Database.keptLines guarding) = [" 80".toList] := by decide
  have hBlocks : Database.blocks (Database.keptLines guarding) =
      [["Probe TCP A q|x|".toList], ["Probe TCP B q|y|", "ports 80", "rarity 9"].map String.toList] := by
    decide
  have hNames : ([["Probe TCP A q|x|".toList],
      ["Probe TCP B q|y|", "ports 80", "rarity 9"].map String.toList].filterMap
        Database.compiled?).map Probe.name = ["A", "B"] := by decide +kernel
  have hApply : (([["Probe TCP A q|x|".toList],
      ["Probe TCP B q|y|", "ports 80", "rarity 9"].map String.toList].filterMap
        Database.compiled?).filter fun p => p.appliesTo 80).map Probe.name = ["A", "B"] := by
    decide +kernel
  have hParse : ∃ r, Registry.parse guarding = .ok r := by
    rw [Database.exists_parse_iff, hExclusions, hBlocks, hNames]
    exact ⟨List.forall_mem_singleton.mpr ⟨_, rfl⟩, by decide⟩
  obtain ⟨r, hLoad⟩ := hParse
  refine ⟨r, hLoad, ?_, ?_⟩
  · rw [Registry.isExcluded, Database.contains_exclude_of_parse hLoad, hExclusions]
    decide +kernel
  · rw [(Database.consistent_of_parse hLoad).dispatch_eq, Database.probes_of_parse hLoad, hBlocks,
      hApply]

theorem dispatch_lists_walk_of_guarding : ∃ r, Registry.parse guarding = .ok r ∧
    entries r 80 = [(['1', '.'], ['A']), (['2', '.'], ['B'])] ∧
    (∃ ps : List Probe, ps.map Probe.name = ["A", "B"] ∧
      (((⟨r, { honorExclude := false }⟩ : Scanner).scan (.ofHostPort "h" 80)).run
        (Scanner.failing fun _ _ => .parse "")) [] = (Scanner.requests (.ofHostPort "h" 80) ps, none)) ∧
    Says r 80 (exclusionNotice 80) ∧
      ((((⟨r, {}⟩ : Scanner).scan (.ofHostPort "h" 80)).run fun _ _ => .ok []) []).1 = [] := by
  obtain ⟨r, hLoad, hExcluded, hDispatch⟩ := exists_parse_guarding
  have hNames : ∀ name ∈ r.dispatch 80, IsWord name.toList := by
    rw [hDispatch]
    decide
  obtain ⟨⟨ps, _, hEntries, hRun⟩, _, hExclusion, _⟩ :=
    dispatch_lists_walk hLoad {} (.ofHostPort "h" 80)
  have hListed : entries r 80 = [(['1', '.'], ['A']), (['2', '.'], ['B'])] := by
    rw [entries_eq hNames, hDispatch]
    decide
  have hSays := (says_exclusionNotice_iff hNames).mpr hExcluded
  have hWalked : ps.map (fun p => p.name.toList) = [['A'], ['B']] := by
    have hSecond := congrArg (List.map Prod.snd) (hEntries.symm.trans hListed)
    rw [List.map_map] at hSecond
    conv_lhs => rw [← List.zipIdx_map_fst 1 ps, List.map_map]
    exact hSecond
  have hPairs : ps.map Probe.name = ["A", "B"] := by
    refine List.map_injective_iff.mpr (fun _ _ h => String.toList_inj.mp h) ?_
    rw [List.map_map]
    exact hWalked
  exact ⟨r, hLoad, hListed, ⟨ps, hPairs, hRun _ _⟩, hSays, hExclusion hSays _ _⟩

end Listing
end ServiceProbe
