import Mathlib.Data.FinEnum
import Mathlib.Data.Set.Card
import Mathlib.SetTheory.Cardinal.NatCard
import ServiceProbe.Listing
import ServiceProbe.Proofs.Port.History
import ServiceProbe.Proofs.Probe.Names
import ServiceProbe.Proofs.Text.Columns

/-! # The listing of the probes

Every probe of a database is listed on a line of its own, in the order of their declaration. What is
counted there are the ports of its two lists one after the other, so a port that stands in both is
counted twice, while the registry gives it the probe once. -/

namespace ServiceProbe
set_option autoImplicit false

/-! ## Counting ports -/

namespace PortSet

theorem size_eq_card (s : PortSet) : s.size = Nat.card { port : Port // s.contains port = true } :=
  s.size_eq_length_toList.trans s.card_eq_length_toList.symm

theorem size_fill (s : PortSet) : s.fill.size = 65535 := rfl

theorem size_add_size (s t : PortSet) : s.size + t.size = (s.union t).size +
    Nat.card { port : Port // s.contains port = true ∧ t.contains port = true } := by
  let left : Set Port := { port | s.contains port = true }
  let right : Set Port := { port | t.contains port = true }
  have hUnion : (s.union t).size = (left ∪ right).ncard := by
    rw [size_eq_card, ← Nat.card_coe_set_eq]
    refine Nat.card_congr (Equiv.subtypeEquivRight fun port => ?_)
    rw [contains_union, Bool.or_eq_true]
    rfl
  have hBoth : Nat.card { port : Port // s.contains port = true ∧ t.contains port = true } =
      (left ∩ right).ncard := Nat.card_coe_set_eq (left ∩ right)
  have hLeft : s.size = left.ncard := s.size_eq_card.trans (Nat.card_coe_set_eq left)
  have hRight : t.size = right.ncard := t.size_eq_card.trans (Nat.card_coe_set_eq right)
  rw [hUnion, hBoth, hLeft, hRight, Set.ncard_union_add_ncard_inter]

end PortSet

/-- The number of ports that a probe names in both its lists. -/
noncomputable def Probe.overlap (p : Probe) : Nat :=
  Nat.card { port : Port // p.ports.contains port = true ∧ p.sslPorts.contains port = true }

namespace Registry

variable {r : Registry} {p : Probe}

theorem Consistent.mem_dispatch_iff (h : r.Consistent) (hp : p ∈ r.probes) (port : Port) :
    p.name ∈ r.dispatch port ↔ p.appliesTo port = true := by
  rw [h.dispatch_eq, List.mem_map]
  constructor
  · rintro ⟨q, hq, hName⟩
    obtain ⟨hListed, hApplies⟩ := List.mem_filter.mp hq
    have hSame := (h.probe?_eq_some_iff.mpr ⟨hListed, hName⟩).symm.trans
      (h.probe?_eq_some_iff.mpr ⟨hp, rfl⟩)
    rwa [← Option.some.inj hSame]
  · intro hApplies
    exact ⟨p, List.mem_filter.mpr ⟨hp, hApplies⟩, rfl⟩

/-- The number of ports that are given the name of a probe. -/
noncomputable def reach (r : Registry) (p : Probe) : Nat :=
  Nat.card { port : Port // port ≠ 0 ∧ p.name ∈ r.dispatch port }

theorem Consistent.reach_eq (h : r.Consistent) (hp : p ∈ r.probes) :
    r.reach p = (coverage p).size := by
  rw [PortSet.size_eq_card]
  refine Nat.card_congr (Equiv.subtypeEquivRight fun port => ?_)
  rw [h.mem_dispatch_iff hp, contains_coverage]
  refine and_iff_right_of_imp fun hApplies => ?_
  simp only [Probe.appliesTo, Bool.and_eq_true, bne_iff_ne] at hApplies
  exact hApplies.1

end Registry

/-! ## Rows -/

namespace Listing

open Text (IsWord IsRow)

variable {p : Probe} {r : Registry} {t : Text}

/-- The columns of a probe. The names of its fallback probes may hold blanks themselves. -/
def columnsOf (p : Probe) : List Text :=
  [p.name.toList, p.protocol.name.toList, rarityText p.rarity, portsText p,
    Text.ofNat p.rules.length] ++ Text.words (Text.join ',' (p.fallback.map String.toList))

theorem isWord_rarityText (rarity : Option Nat) : IsWord (rarityText rarity) := by
  cases rarity with
  | none => decide
  | some value => exact Text.isWord_ofNat value

theorem isWord_portsText (p : Probe) : IsWord (portsText p) := by
  unfold portsText
  split
  · decide
  · exact Text.isWord_ofNat _

theorem isWord_protocol (protocol : Protocol) : IsWord protocol.name.toList := by
  cases protocol <;> decide

theorem isRow_rowOf (hName : IsWord p.name.toList) (hFallback : ∀ name ∈ p.fallback, '\n' ∉ name.toList) :
    IsRow (columnsOf p) (rowOf p) := by
  have hProtocol := isWord_protocol p.protocol
  have hRarity := isWord_rarityText p.rarity
  have hPorts := isWord_portsText p
  have hRules := Text.isWord_ofNat p.rules.length
  have hJoin : '\n' ∉ Text.join ',' (p.fallback.map String.toList) := by
    intro hFeed
    rcases Text.mem_join hFeed with hComma | ⟨part, hPart, hMem⟩
    · exact absurd hComma (by decide)
    · obtain ⟨name, hIn, rfl⟩ := List.mem_map.mp hPart
      exact hFallback name hIn hMem
  refine ⟨_, rfl, ?_, ?_⟩
  · simp [Text.feed_mem_pad, hName.free, hProtocol.free, hRarity.free, hPorts.free, hRules.free, hJoin]
  · simp [columnsOf, Text.words_pad, hName, hProtocol.words_eq, hRarity, hPorts, hRules]

theorem isRow_header : IsRow (["PROBE", "PROTO", "RARITY", "PORTS", "RULES", "FALLBACK"].map
    String.toList) header := by
  refine ⟨header.dropLast, ?_, ?_, ?_⟩ <;> decide

/-- The listing read back: the columns of the probes stand between a heading and the totals. -/
theorem cells_probes (h : Registry.parse t = .ok r) : ∃ totals, Text.cells (probes r) =
    ["PROBE", "PROTO", "RARITY", "PORTS", "RULES", "FALLBACK"].map String.toList ::
      (r.probes.map columnsOf ++ totals) := by
  have hRows : ∀ p ∈ r.probes, IsRow (columnsOf p) (rowOf p) := fun p hp =>
    isRow_rowOf (Database.names_of_parse h p hp).1 (Database.names_of_parse h p hp).2
  obtain ⟨rest, hRest⟩ : ∃ rest, probes r = header ++ (r.probes.flatMap rowOf ++ rest) := by
    simp only [probes, List.append_assoc]
    exact ⟨_, rfl⟩
  exact ⟨Text.cells rest, by rw [hRest, Text.cells_append isRow_header, Text.cells_flatMap hRows]⟩

theorem portsText_eq (h : r.Consistent) (hp : p ∈ r.probes) : portsText p =
    if p.isCatchAll then "all".toList else Text.ofNat (r.reach p + p.overlap) := by
  unfold portsText
  split
  · rfl
  · rename_i hNamed
    have hReach : r.reach p = (p.ports.union p.sslPorts).size := by
      rw [h.reach_eq hp, Registry.coverage, if_neg hNamed]
    rw [hReach, Probe.overlap, ← PortSet.size_add_size]

theorem isCatchAll_iff : p.isCatchAll = true ↔
    ∀ port, p.ports.contains port = false ∧ p.sslPorts.contains port = false := by
  rw [Probe.isCatchAll, Bool.and_eq_true, PortSet.isEmpty_iff, PortSet.isEmpty_iff, forall_and]

theorem overlap_eq_zero_iff : p.overlap = 0 ↔
    ∀ port, ¬ (p.ports.contains port = true ∧ p.sslPorts.contains port = true) := by
  rw [Probe.overlap, Finite.card_eq_zero_iff, isEmpty_subtype]

theorem ofNat_ne_all (n : Nat) : Text.ofNat n ≠ ['a', 'l', 'l'] := by
  intro hSame
  have hFirst : 'a' ∈ Text.ofNat n := hSame ▸ List.mem_cons_self
  exact absurd (Text.isDigit_of_mem_ofNat hFirst) (by decide)

theorem ofNat_inj {m n : Nat} : Text.ofNat m = Text.ofNat n ↔ m = n := by
  refine ⟨fun hSame => Option.some.inj ?_, congrArg _⟩
  rw [← Text.readDecimal?_ofNat, hSame, Text.readDecimal?_ofNat]

theorem columns_of_parse (h : Registry.parse t = .ok r) {k : Nat} (hp : r.probes[k]? = some p) :
    (Text.cells (probes r))[k + 1]? = some (columnsOf p) := by
  obtain ⟨totals, hCells⟩ := cells_probes h
  obtain ⟨hLt, _⟩ := List.getElem?_eq_some_iff.mp hp
  rw [hCells, List.getElem?_cons_succ, List.getElem?_append_left (by simpa using hLt),
    List.getElem?_map, hp]
  rfl

/-- What the listing says of the ports of a probe: a word where it declares none, and is sent to
every port; else the ports that it is sent to and, once more, those that both its lists name. -/
theorem ports_column_of_parse (h : Registry.parse t = .ok r) (k : Nat) (hp : r.probes[k]? = some p) :
    ∃ columns, (Text.cells (probes r))[k + 1]? = some columns ∧
      columns[0]? = some p.name.toList ∧
      columns[3]? = some (if p.isCatchAll then "all".toList
        else Text.ofNat (r.reach p + p.overlap)) ∧
      (columns[3]? = some "all".toList ↔
        ∀ port, p.ports.contains port = false ∧ p.sslPorts.contains port = false) ∧
      (columns[3]? = some "all".toList → r.reach p = 65535) ∧
      (columns[3]? = some (Text.ofNat (r.reach p)) ↔ p.isCatchAll = false ∧
        ∀ port, ¬ (p.ports.contains port = true ∧ p.sslPorts.contains port = true)) := by
  have hConsistent := Database.consistent_of_parse h
  have hMem := List.mem_of_getElem? hp
  have hColumn : (columnsOf p)[3]? = some (portsText p) := rfl
  rw [portsText_eq hConsistent hMem] at hColumn
  refine ⟨columnsOf p, columns_of_parse h hp, rfl, hColumn, ?_⟩
  rw [hColumn, ← isCatchAll_iff, ← overlap_eq_zero_iff]
  cases hAll : p.isCatchAll with
  | true =>
    have hReach : r.reach p = 65535 := by
      rw [hConsistent.reach_eq hMem, Registry.coverage, if_pos hAll, PortSet.size_fill]
    simp [hReach, (ofNat_ne_all _).symm]
  | false => simp [ofNat_ne_all, ofNat_inj]

/-- A probe that names port 80 in both its lists. -/
def twiceNamed : Probe :=
  let ports := PortSet.empty.insertRange (.only 80 (by decide))
  { Probe.bare .tcp ['A'] [] with ports := ports, sslPorts := ports }

def twiceNaming : Text := "Probe TCP A q||\nports 80\nsslports 80\n".toList

theorem exists_parse_twiceNaming :
    ∃ r, Registry.parse twiceNaming = .ok r ∧ r.probes[0]? = some twiceNamed := by
  have hBlocks : Database.blocks (Database.keptLines twiceNaming) =
      [["Probe TCP A q||".toList, "ports 80".toList, "sslports 80".toList]] := by decide
  have hCompiled : Database.compiled? ["Probe TCP A q||".toList, "ports 80".toList,
      "sslports 80".toList] = some twiceNamed := rfl
  obtain ⟨r, hLoad⟩ : ∃ r, Registry.parse twiceNaming = .ok r := ⟨_, rfl⟩
  refine ⟨r, hLoad, ?_⟩
  rw [Database.probes_of_parse hLoad, hBlocks, List.filterMap_cons_some hCompiled]
  rfl

theorem contains_ports_twiceNamed (port : Port) : twiceNamed.ports.contains port = true ↔ port = 80 := by
  simp [twiceNamed, PortSet.contains_insertRange, PortRange.mem_only, eq_comm]

theorem overlap_twiceNamed : twiceNamed.overlap = 1 := by
  have hBoth (port : Port) : (twiceNamed.ports.contains port = true ∧
      twiceNamed.sslPorts.contains port = true) ↔ port = 80 :=
    and_self_iff.trans (contains_ports_twiceNamed port)
  exact (Nat.card_congr (Equiv.subtypeEquivRight hBoth)).trans Nat.card_unique

theorem reach_twiceNamed (h : Registry.parse t = .ok r) (hp : r.probes[0]? = some twiceNamed) :
    r.reach twiceNamed = 1 := by
  have hOnly (port : Port) : port ≠ 0 ∧ twiceNamed.name ∈ r.dispatch port ↔ port = 80 := by
    have hNamed : twiceNamed.isCatchAll = false := rfl
    have hSsl : twiceNamed.sslPorts = twiceNamed.ports := rfl
    have hPositive : twiceNamed.ports.contains port = true → port ≠ 0 := PortSet.ne_zero_of_contains
    rw [(Database.consistent_of_parse h).mem_dispatch_iff (List.mem_of_getElem? hp),
      ← contains_ports_twiceNamed port, Probe.appliesTo, hNamed, hSsl, Bool.false_or, Bool.or_self,
      Bool.and_eq_true, bne_iff_ne]
    exact ⟨fun h => h.2.2, fun h => ⟨hPositive h, hPositive h, h⟩⟩
  exact (Nat.card_congr (Equiv.subtypeEquivRight hOnly)).trans Nat.card_unique

theorem ports_column_of_twiceNaming : ∃ r columns, Registry.parse twiceNaming = .ok r ∧
    r.probes[0]? = some twiceNamed ∧ (Text.cells (probes r))[1]? = some columns ∧
      columns[3]? = some ['2'] ∧ columns[3]? ≠ some (Text.ofNat (r.reach twiceNamed)) := by
  obtain ⟨r, hLoad, hProbe⟩ := exists_parse_twiceNaming
  obtain ⟨columns, hLine, _, hPorts, _, _, hExact⟩ := ports_column_of_parse hLoad 0 hProbe
  rw [reach_twiceNamed hLoad hProbe, overlap_twiceNamed] at hPorts
  refine ⟨r, columns, hLoad, hProbe, hLine, hPorts, fun hSame => ?_⟩
  have hShared := (contains_ports_twiceNamed 80).mpr rfl
  exact (hExact.mp hSame).2 80 ⟨hShared, hShared⟩

/-- A port that stands in both lists is sent the probe once and counted twice. -/
theorem not_ports_column_eq_reach :
    (∃ r, Registry.parse twiceNaming = .ok r ∧ r.probes[0]? = some twiceNamed ∧
      r.reach twiceNamed = 1 ∧ (Text.cells (probes r))[1]?.bind (·[3]?) = some ['2']) ∧
    ¬ ∀ t r k p, Registry.parse t = .ok r → r.probes[k]? = some p →
      ∃ columns, (Text.cells (probes r))[k + 1]? = some columns ∧
        columns[3]? = some (if p.isCatchAll then "all".toList else Text.ofNat (r.reach p)) := by
  obtain ⟨r, hLoad, hProbe⟩ := exists_parse_twiceNaming
  have hReach := reach_twiceNamed hLoad hProbe
  have hLine := columns_of_parse hLoad hProbe
  have hNamed : twiceNamed.isCatchAll = false := rfl
  have hPorts : (columnsOf twiceNamed)[3]? = some ['2'] := by
    have hText := portsText_eq (Database.consistent_of_parse hLoad) (List.mem_of_getElem? hProbe)
    rw [hReach, overlap_twiceNamed] at hText
    exact congrArg some hText
  refine ⟨⟨r, hLoad, hProbe, hReach, by rw [hLine]; exact hPorts⟩, fun hAll => ?_⟩
  obtain ⟨columns, hColumns, hCount⟩ := hAll _ r 0 _ hLoad hProbe
  cases hLine.symm.trans hColumns
  rw [hPorts, hReach, hNamed] at hCount
  exact absurd hCount (by decide)

end Listing
end ServiceProbe
