import Mathlib.Data.List.Basic
import ServiceProbe.Proofs.Address.Printed
import ServiceProbe.Proofs.Rule.Finger
import ServiceProbe.Report

/-! # Tables

A table has a line for every record that is identified, as long as what it shows of the versions
holds no line feed. Every line feed that it does show adds a line: unlike the comma-separated
values, the table prints the texts of a finger as they were captured. -/

namespace ServiceProbe
set_option autoImplicit false

/-! ## Line feeds -/

namespace Report

def IsSolid (s : String) : Prop := ∀ c ∈ s.toList, Text.isBlank c = false

/-- The finger is what a rule makes of a reply, and its names hold no blanks. -/
def IsCaught (f : Finger) : Prop :=
  ∃ line rule probe reply, Rule.compile line = .ok rule ∧ rule.finger? probe reply = some f ∧
    IsSolid rule.service ∧ IsSolid probe

/-- A record of a scan: its host is a printed address, and its finger, if any, that of a rule. -/
structure IsScanned (r : Record) : Prop where
  target : ∃ (a : Address) (port : Port), r.target = .ofHostPort (String.ofList a.render) port
  caught : ∀ f, r.finger = some f → IsCaught f

/-- What the table shows of the version of a service. -/
def shownVersion (f : Finger) : Text := truncate 36 f.versionLine.toList

/-- What the table shows of the version of a record, which is nothing without a finger. -/
def shownOf (r : Record) : Text := (r.finger.map shownVersion).getD []

variable {f : Finger} {r : Record} {records : List Record}

theorem isSolid_of_all {s : String} (h : (s.toList.all fun c => !Text.isBlank c) = true) :
    IsSolid s := fun c hc => (Bool.not_eq_true' _).mp (List.all_eq_true.mp h c hc)

theorem feed_not_mem_of_isSolid {s : String} (h : IsSolid s) : '\n' ∉ s.toList :=
  fun hMem => absurd (h _ hMem) (by decide)

theorem feed_not_mem_ofNat (n : Nat) : '\n' ∉ Text.ofNat n :=
  fun hMem => absurd (Text.isDigit_of_mem_ofNat hMem) (by decide)

theorem feed_not_mem_addressOf (a : Address) (port : Port) :
    '\n' ∉ Target.addressOf a.render port := by
  have hHost : '\n' ∉ a.render := fun hMem => absurd (Address.isSign_of_mem_render hMem) (by decide)
  have hPort := feed_not_mem_ofNat port.toNat
  unfold Target.addressOf Target.bracketed
  split <;> simp [hHost, hPort]

theorem feed_not_mem_serviceOf (h : IsSolid f.service) : '\n' ∉ serviceOf f := by
  have hName := feed_not_mem_of_isSolid h
  unfold serviceOf
  split <;> simp [hName]

theorem feed_not_mem_format (d : Duration) : '\n' ∉ d.format := by
  have hDigits := feed_not_mem_ofNat
  unfold Duration.format Duration.threeDigits
  grind [List.leftpad]

theorem count_pad (width : Nat) (t : Text) : (pad width t).count '\n' = t.count '\n' := by
  simp [pad, List.rightpad, List.count_replicate]

theorem count_row (target service probe version : Text) :
    (row target service probe version).count '\n' = target.count '\n' + service.count '\n' +
      probe.count '\n' + version.count '\n' + 1 := by
  simp [row, count_pad]
  omega

theorem count_rowOf (h : IsScanned r) :
    (rowOf r).count '\n' = (if r.isIdentified then 1 else 0) + (shownOf r).count '\n' := by
  unfold rowOf shownOf Record.isIdentified
  cases hFinger : r.finger with
  | none => rfl
  | some f =>
    obtain ⟨a, port, hTarget⟩ := h.target
    obtain ⟨_, rule, probe, _, _, hCaught, hService, hProbe⟩ := h.caught f hFinger
    obtain ⟨rfl, hSame, _⟩ := Rule.heading_of_finger? hCaught
    have hAddress : r.target.address.toList = Target.addressOf a.render port := by
      rw [hTarget, Target.ofHostPort, String.toList_ofList, String.toList_ofList]
    dsimp only
    rw [count_row, hAddress, List.count_eq_zero.mpr (feed_not_mem_addressOf a port),
      List.count_eq_zero.mpr (feed_not_mem_serviceOf (hSame ▸ hService)),
      List.count_eq_zero.mpr (feed_not_mem_of_isSolid hProbe)]
    simp [shownVersion, Nat.add_comm]

theorem count_rows (h : ∀ r ∈ records, IsScanned r) : (records.flatMap rowOf).count '\n' =
    Record.countIdentified records + (records.flatMap shownOf).count '\n' := by
  induction records with
  | nil => rfl
  | cons r records ih =>
    obtain ⟨hFirst, hRest⟩ := List.forall_mem_cons.mp h
    rw [List.flatMap_cons, List.flatMap_cons, List.count_append, List.count_append,
      count_rowOf hFirst, ih hRest, Record.countIdentified, Record.countIdentified, List.countP_cons]
    omega

theorem count_summaryLine (label : String) (value : Text) :
    (summaryLine label value).count '\n' = label.toList.count '\n' + value.count '\n' + 1 := by
  simp only [summaryLine, List.count_cons, List.count_append, List.count_nil]
  simp

theorem count_table (duration : Duration) (h : records ≠ []) :
    (table records duration).count '\n' = 12 + (records.flatMap rowOf).count '\n' := by
  have hEmpty : ¬ records.isEmpty = true := mt List.isEmpty_iff.mp h
  have hFormat := List.count_eq_zero.mpr (feed_not_mem_format duration)
  have hNumber (n : Nat) := List.count_eq_zero.mpr (feed_not_mem_ofNat n)
  have hRuler : ruler.count '\n' = 1 := by decide
  have hSummary : "\nSummary:\n".toList.count '\n' = 2 := by decide
  have hHeader : (row "TARGET".toList "SERVICE".toList "PROBE".toList "VERSION".toList).count '\n' = 1 :=
    count_row ..
  have hLabels : "Total scanned".toList.count '\n' = 0 ∧ "Identified".toList.count '\n' = 0 ∧
      "Unidentified".toList.count '\n' = 0 ∧ "Scan duration".toList.count '\n' = 0 := by decide
  have hEnd : ['\n'].count '\n' = 1 := by decide
  unfold table
  rw [if_neg hEmpty]
  simp only [List.count_append, count_summaryLine, hLabels, hFormat, hNumber, hRuler, hSummary,
    hHeader, hEnd]
  omega

theorem feed_not_mem_shownOf (h : ∀ f, r.finger = some f →
    ∀ value ∈ f.product.toList ++ f.version.toList ++ f.info.toList, '\n' ∉ value.toList) :
    '\n' ∉ shownOf r := by
  unfold shownOf
  cases hFinger : r.finger with
  | none => exact List.not_mem_nil
  | some f =>
    obtain ⟨hNamed, hInfo⟩ := List.forall_mem_append.mp (h f hFinger)
    have hLine :
        '\n' ∉ (String.intercalate " " (f.product.toList ++ f.version.toList)).toList := by
      rw [String.toList_intercalate]
      cases hProduct : f.product <;> cases hVersion : f.version <;>
        simp_all [List.intercalate]
    have hVersion : '\n' ∉ f.versionLine.toList := by
      unfold Finger.versionLine
      cases hKnown : f.info with
      | none => exact hLine
      | some info =>
        have hText : '\n' ∉ info.toList := hInfo info (by simp [hKnown])
        dsimp only
        split <;> simp_all
    have hHead : '\n' ∉ f.versionLine.toList.take (36 - 3) :=
      fun hMem => hVersion (List.mem_of_mem_take hMem)
    rw [Option.map_some, Option.getD_some, shownVersion, truncate]
    split
    · simp [hHead]
    · exact hVersion

/-- The line feeds of a table are twelve, one for each identified record, and those within the
versions it shows. So a row is one line unless a captured text breaks it. -/
theorem table_line_feeds (records : List Record) (duration : Duration) (hNonempty : records ≠ [])
    (hScanned : ∀ r ∈ records, IsScanned r) :
    let feeds := (table records duration).count '\n'
    let identified := Record.countIdentified records
    feeds = 12 + identified + (records.flatMap shownOf).count '\n' ∧
      (∀ r ∈ records,
        (rowOf r).count '\n' = (if r.isIdentified then 1 else 0) + (shownOf r).count '\n') ∧
      (feeds = 12 + identified ↔ ∀ r ∈ records, '\n' ∉ shownOf r) ∧
      ((∀ r ∈ records, ∀ f, r.finger = some f →
        ∀ value ∈ f.product.toList ++ f.version.toList ++ f.info.toList, '\n' ∉ value.toList) →
          feeds = 12 + identified) := by
  intro feeds identified
  have hFeeds : feeds = 12 + identified + (records.flatMap shownOf).count '\n' := by
    simp only [feeds, identified, count_table duration hNonempty, count_rows hScanned, Nat.add_assoc]
  have hExact : feeds = 12 + identified ↔ ∀ r ∈ records, '\n' ∉ shownOf r := by
    rw [hFeeds, Nat.add_eq_left, List.count_eq_zero, List.mem_flatMap]
    simp
  refine ⟨hFeeds, fun r hr => count_rowOf (hScanned r hr), hExact, fun hFree => hExact.mpr ?_⟩
  exact fun r hr => feed_not_mem_shownOf (hFree r hr)

/-- A record whose finger holds a line feed of the reply, and one without a finger. -/
def broken : Record :=
  ⟨.ofHostPort "10.0.0.1" 80,
    some { probe := "NULL", service := "http", product := some "a\nb" }, .zero⟩

def unknown : Record := ⟨.ofHostPort "::1" 22, none, .zero⟩

theorem isScanned_broken : IsScanned broken := by
  refine ⟨⟨.v4 0x0A000001, 80, by decide +kernel⟩, fun f hFinger => ?_⟩
  cases hFinger
  have hCaught : ((Rule.compile "match http m|^(a.b)|s p/$1/".toList).toOption.bind
      fun rule => rule.finger? "NULL" [0x61, 0x0A, 0x62]) = broken.finger := by
    decide +kernel
  cases hCompile : Rule.compile "match http m|^(a.b)|s p/$1/".toList with
  | error fault =>
    rw [hCompile] at hCaught
    cases hCaught
  | ok rule =>
    rw [hCompile] at hCaught
    have hService : "http" = rule.service := (Rule.heading_of_finger? hCaught).2.1
    refine ⟨_, rule, _, _, hCompile, hCaught, ?_, isSolid_of_all (by decide)⟩
    exact hService ▸ isSolid_of_all (by decide)

theorem isScanned_unknown : IsScanned unknown :=
  ⟨⟨.v6 1, 22, by decide +kernel⟩, by rintro _ ⟨⟩⟩

theorem table_line_feeds_of_broken : (∀ r ∈ [broken, unknown], IsScanned r) ∧
    (table [broken, unknown] .zero).count '\n' = 14 := by
  have hScanned : ∀ r ∈ [broken, unknown], IsScanned r :=
    List.forall_mem_cons.mpr ⟨isScanned_broken, List.forall_mem_singleton.mpr isScanned_unknown⟩
  refine ⟨hScanned, ?_⟩
  exact (table_line_feeds _ .zero (List.cons_ne_nil _ _) hScanned).1.trans (by decide +kernel)

/-- A captured line feed splits the line of its record: one record is identified, and the table has
fourteen line feeds instead of thirteen. -/
theorem not_one_line_of_captured_feed : IsScanned broken ∧
    Record.countIdentified [broken] = 1 ∧ (table [broken] .zero).count '\n' = 14 ∧
      ¬ ∀ records duration, records ≠ [] → (∀ r ∈ records, IsScanned r) →
        (table records duration).count '\n' = 12 + Record.countIdentified records := by
  have hFeeds : (table [broken] .zero).count '\n' = 14 := by decide +kernel
  refine ⟨isScanned_broken, rfl, hFeeds, fun hAll => ?_⟩
  have hOne := hAll [broken] .zero (List.cons_ne_nil _ _)
    (List.forall_mem_singleton.mpr isScanned_broken)
  exact absurd (hFeeds.symm.trans hOne) (by decide)

end Report
end ServiceProbe
