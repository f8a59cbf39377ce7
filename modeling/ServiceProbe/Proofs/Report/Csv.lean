import ServiceProbe.Proofs.Report.Rows
import ServiceProbe.Report

/-! # Reports of comma-separated values

A report is read back to its header and to one row for each record, whatever the services say of
themselves: quotes and commas come back as they are, and line breaks as blanks. -/

namespace ServiceProbe.Report
set_option autoImplicit false

def header : List Text :=
  ["host", "port", "service", "probe", "product", "version", "info", "soft", "elapsed_ms"].map String.toList

/-- A text without line breaks, with a blank for every character of one. -/
def flattened (value : Option String) : Text :=
  (value.getD "").toList.map fun c => if c = '\r' ∨ c = '\n' then ' ' else c

def columns (r : Record) : List Text :=
  [r.target.host.toList, Text.ofNat r.target.port.toNat, flattened (r.finger.map Finger.service),
    flattened (r.finger.map Finger.probe), flattened (r.finger.bind Finger.product),
    flattened (r.finger.bind Finger.version), flattened (r.finger.bind Finger.info),
    (if r.finger.any Finger.soft then "true" else "false").toList,
    Text.ofNat (r.elapsed.toNanos / 1000000)]

open Csv

theorem isField_csvField (value : Option String) : IsField (flattened value) (csvField value) := by
  have hDoubled : (flattened value).flatMap doubled = (value.getD "").toList.flatMap fun c =>
      if c = '"' then ['"', '"'] else if c = '\r' || c = '\n' then [' '] else [c] := by
    rw [flattened, List.flatMap_map]
    refine congrArg (List.flatMap · _) (funext fun c => ?_)
    by_cases hBreak : c = '\r' ∨ c = '\n'
    · have hQuote : c ≠ '"' := by rcases hBreak with rfl | rfl <;> decide
      simp [doubled, hBreak, hQuote]
    · by_cases hQuote : c = '"'
      · subst hQuote
        rfl
      · simp [doubled, hBreak, hQuote]
  rw [csvField, csvQuote, ← hDoubled]
  exact .quoted _

theorem isField_ofNat (n : Nat) : IsField (Text.ofNat n) (Text.ofNat n) := by
  refine .bare fun c hc hMark => ?_
  have hDigit := Text.isDigit_of_mem_ofNat hc
  rcases hMark with rfl | rfl | rfl | rfl
  all_goals cases hDigit

theorem isRow_header : IsRow header (Text.join ',' header) := by
  have hFree : (header.all fun field => field.all fun c => !decide (IsMark c)) = true := by decide
  refine isRow_join (List.forall₂_same.mpr fun field hField => ?_) (List.cons_ne_nil _ _)
  exact .bare (not_isMark_of_all (List.all_eq_true.mp hFree field hField))

theorem isRow_columns {r : Record} (hHost : ∀ c ∈ r.target.host.toList, ¬ IsMark c) :
    ∃ t, IsRow (columns r) t ∧ csvRow r = t ++ ['\n'] := by
  have hSoft : IsField (if r.finger.any Finger.soft then "true" else "false").toList
      (Json.boolText (r.finger.any Finger.soft)) := by
    cases r.finger.any Finger.soft
    · exact .bare (not_isMark_of_all (by decide))
    · exact .bare (not_isMark_of_all (by decide))
  have hElapsed : r.elapsed.toNanos / 1000000 = r.elapsed.toMillis := by
    unfold Duration.toNanos Duration.toMillis
    omega
  refine ⟨_, isRow_join ?_ (List.cons_ne_nil _ _), rfl⟩
  rw [columns, hElapsed]
  exact .cons (.bare hHost) (.cons (isField_ofNat _) (.cons (isField_csvField _)
    (.cons (isField_csvField _) (.cons (isField_csvField _) (.cons (isField_csvField _)
      (.cons (isField_csvField _) (.cons hSoft (.cons (isField_ofNat _) .nil))))))))

theorem isTable_csv {records : List Record}
    (hHosts : ∀ r ∈ records, ∀ c ∈ r.target.host.toList, ¬ IsMark c) :
    IsTable (header :: records.map columns) (csv records) := by
  have hRows : IsTable (records.map columns) (records.flatMap csvRow) := by
    induction records with
    | nil => exact .nil
    | cons r records ih =>
      obtain ⟨hHost, hRest⟩ := List.forall_mem_cons.mp hHosts
      obtain ⟨t, hRow, hText⟩ := isRow_columns hHost
      rw [List.map_cons, List.flatMap_cons, hText, List.append_assoc]
      exact .cons hRow (.inl rfl) (ih hRest)
  exact .cons isRow_header (.inl rfl) hRows

/-- A report is read back to its header and one row of nine fields for each record, in order. -/
theorem csv_reads_back (records : List Record)
    (hHosts : ∀ r ∈ records, ∀ c ∈ r.target.host.toList, ¬ IsMark c) :
    let rows := header :: records.map columns
    read? (csv records) = some rows ∧ (∀ others, IsTable others (csv records) ↔ others = rows) ∧
      ∀ row ∈ rows, row.length = 9 := by
  intro rows
  have hTable := isTable_csv hHosts
  have hRead : read? (csv records) = some rows := read?_eq_some_iff.mpr hTable
  refine ⟨hRead, fun others => ?_, List.forall_mem_cons.mpr ⟨rfl, fun row hRow => ?_⟩⟩
  · rw [← read?_eq_some_iff, hRead, Option.some.injEq, eq_comm]
  · obtain ⟨r, _, rfl⟩ := List.mem_map.mp hRow
    rfl

/-- A record with quotes, commas and line breaks in the texts of its finger. -/
def talkative : Record :=
  ⟨.ofHostPort "10.0.0.1" 80,
    some { probe := "NULL", service := "a\",\r\nb", product := some "\"", info := some "\n,\n" }, .ofMillis 1500⟩

theorem csv_reads_back_of_talkative : read? (csv [talkative]) = some [header,
    ["10.0.0.1", "80", "a\",  b", "NULL", "\"", "", " , ", "false", "1500"].map String.toList] := by
  have hColumns : columns talkative =
    ["10.0.0.1", "80", "a\",  b", "NULL", "\"", "", " , ", "false", "1500"].map String.toList := by
    decide +kernel
  rw [← hColumns]
  have hHost : ∀ c ∈ talkative.target.host.toList, ¬ IsMark c := not_isMark_of_all (by decide)
  exact (csv_reads_back [talkative] (List.forall_mem_singleton.mpr hHost)).1

end ServiceProbe.Report
