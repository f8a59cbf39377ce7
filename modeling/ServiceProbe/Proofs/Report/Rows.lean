import ServiceProbe.Proofs.Text.Separated

/-! # Comma-separated values

Fields between commas are written bare or between quotes, rows end with a line feed that a carriage
return may precede, and the last line may lack its ending. A reader with one state for each place
within a field reads exactly the texts that are written so, and finds their rows. -/

namespace ServiceProbe.Csv
set_option autoImplicit false

/-! ## Written rows -/

/-- The characters that only occur between quotes. -/
def IsMark (c : Char) : Prop := c = ',' ∨ c = '"' ∨ c = '\r' ∨ c = '\n'

instance (c : Char) : Decidable (IsMark c) := inferInstanceAs (Decidable (_ ∨ _))

def doubled (c : Char) : Text := if c = '"' then ['"', '"'] else [c]

inductive IsField : Text → Text → Prop where
  | bare {field : Text} (h : ∀ c ∈ field, ¬ IsMark c) : IsField field field
  | quoted (field : Text) : IsField field ('"' :: (field.flatMap doubled ++ ['"']))

inductive IsRow : List Text → Text → Prop where
  | last {field t : Text} (h : IsField field t) : IsRow [field] t
  | cons {field t rest : Text} {fields : List Text} (h : IsField field t) (hRest : IsRow fields rest) :
      IsRow (field :: fields) (t ++ ',' :: rest)

/-- Rows with an ending each, which the last one may lack unless it is empty. -/
inductive IsTable : List (List Text) → Text → Prop where
  | nil : IsTable [] []
  | last {row : List Text} {t : Text} (h : IsRow row t) (hNonempty : t ≠ []) : IsTable [row] t
  | cons {row : List Text} {t ending rest : Text} {rows : List (List Text)} (h : IsRow row t)
      (hEnd : Text.IsLineEnd ending) (hRest : IsTable rows rest) :
      IsTable (row :: rows) (t ++ (ending ++ rest))

variable {field t : Text}

theorem not_isMark_of_all (h : (t.all fun c => !decide (IsMark c)) = true) : ∀ c ∈ t, ¬ IsMark c := by
  intro c hc hMark
  have hFree := List.all_eq_true.mp h c hc
  rw [decide_eq_true hMark] at hFree
  cases hFree

theorem isRow_join {fields texts : List Text} (h : List.Forall₂ IsField fields texts)
    (hNonempty : fields ≠ []) : IsRow fields (Text.join ',' texts) := by
  induction h with
  | nil => exact absurd rfl hNonempty
  | @cons field t fields texts hField hRest ih =>
    cases hRest with
    | nil => exact .last hField
    | cons hNext hOthers => exact .cons hField (ih (List.cons_ne_nil _ _))

/-! ## The reader -/

/-- The place of the reader: before a field, within one, after a quote that closes a field or is the
first of two, or after the carriage return of a line ending. -/
inductive Place where
  | start
  | bare (field : Text)
  | quoted (field : Text)
  | closed (field : Text)
  | returned

structure State where
  rows : List (List Text)
  row : List Text
  place : Place

/-- What the character after a field says. -/
def State.delimit (s : State) (field : Text) (c : Char) : Option State :=
  if c = ',' then some { s with row := s.row ++ [field], place := .start }
  else if c = '\n' then some ⟨s.rows ++ [s.row ++ [field]], [], .start⟩
  else if c = '\r' then some ⟨s.rows ++ [s.row ++ [field]], [], .returned⟩
  else none

def State.step (s : State) (c : Char) : Option State :=
  match s.place with
  | .start =>
    if c = '"' then some { s with place := .quoted [] }
    else if IsMark c then s.delimit [] c
    else some { s with place := .bare [c] }
  | .bare field =>
    if IsMark c then s.delimit field c else some { s with place := .bare (field ++ [c]) }
  | .quoted field =>
    if c = '"' then some { s with place := .closed field }
    else some { s with place := .quoted (field ++ [c]) }
  | .closed field =>
    if c = '"' then some { s with place := .quoted (field ++ ['"']) } else s.delimit field c
  | .returned => if c = '\n' then some { s with place := .start } else none

/-- The rows at the end of the text. -/
def State.finish? (s : State) : Option (List (List Text)) :=
  match s.place with
  | .start => if s.row.isEmpty then some s.rows else some (s.rows ++ [s.row ++ [[]]])
  | .bare field | .closed field => some (s.rows ++ [s.row ++ [field]])
  | .quoted _ | .returned => none

def State.run (s : State) (t : Text) : Option State := t.foldlM step s

def read? (t : Text) : Option (List (List Text)) :=
  ((⟨[], [], .start⟩ : State).run t).bind State.finish?

/-! ## Written rows are read -/

/-- The field that is complete at a place. -/
def Place.field? : Place → Option Text
  | start => some []
  | bare field | closed field => some field
  | quoted _ | returned => none

variable {rows : List (List Text)} {row fields : List Text} {place : Place}

theorem run_append (s : State) (t rest : Text) : s.run (t ++ rest) = (s.run t).bind (·.run rest) :=
  List.foldlM_append

theorem run_cons (s : State) (c : Char) (rest : Text) :
    s.run (c :: rest) = (s.step c).bind (·.run rest) := rfl

theorem step_of_field (h : place.field? = some field) {c : Char} (hMark : IsMark c) (hQuote : c ≠ '"') :
    State.step ⟨rows, row, place⟩ c = State.delimit ⟨rows, row, place⟩ field c := by
  cases place with
  | start =>
    cases h
    simp only [State.step, if_neg hQuote, if_pos hMark]
  | bare value =>
    cases h
    simp only [State.step, if_pos hMark]
  | closed value =>
    cases h
    simp only [State.step, if_neg hQuote]
  | quoted value => cases h
  | returned => cases h

theorem run_bare (h : ∀ c ∈ t, ¬ IsMark c) (field : Text) :
    State.run ⟨rows, row, .bare field⟩ t = some ⟨rows, row, .bare (field ++ t)⟩ := by
  induction t generalizing field with
  | nil => rw [List.append_nil]; rfl
  | cons c t ih =>
    obtain ⟨hc, ht⟩ := List.forall_mem_cons.mp h
    have hStep : State.step ⟨rows, row, .bare field⟩ c = some ⟨rows, row, .bare (field ++ [c])⟩ := by
      simp only [State.step, if_neg hc]
    rw [run_cons, hStep, Option.bind_some, ih ht, List.append_assoc, List.singleton_append]

theorem run_doubled (field t : Text) :
    State.run ⟨rows, row, .quoted field⟩ (t.flatMap doubled) =
      some ⟨rows, row, .quoted (field ++ t)⟩ := by
  induction t generalizing field with
  | nil => rw [List.append_nil]; rfl
  | cons c t ih =>
    have hChar : State.run ⟨rows, row, .quoted field⟩ (doubled c) =
        some ⟨rows, row, .quoted (field ++ [c])⟩ := by
      by_cases hQuote : c = '"'
      · subst hQuote
        rfl
      · simp [doubled, hQuote, State.run, State.step]
    rw [List.flatMap_cons, run_append, hChar, Option.bind_some, ih, List.append_assoc,
      List.singleton_append]

theorem run_field (h : IsField field t) (rows : List (List Text)) (row : List Text) :
    ∃ place, State.run ⟨rows, row, .start⟩ t = some ⟨rows, row, place⟩ ∧ place.field? = some field ∧
      (t ≠ [] → place ≠ .start) := by
  cases h with
  | bare hFree =>
    cases field with
    | nil => exact ⟨.start, rfl, rfl, fun hNonempty => absurd rfl hNonempty⟩
    | cons c field =>
      obtain ⟨hc, hField⟩ := List.forall_mem_cons.mp hFree
      have hQuote : c ≠ '"' := fun hSame => hc (.inr (.inl hSame))
      refine ⟨.bare (c :: field), ?_, rfl, fun _ => by simp⟩
      rw [run_cons, State.step, if_neg hQuote, if_neg hc, Option.bind_some, run_bare hField]
      rfl
  | quoted =>
    refine ⟨.closed field, ?_, rfl, fun _ => by simp⟩
    rw [run_cons, State.step, if_pos rfl, Option.bind_some, run_append, run_doubled, Option.bind_some]
    rfl

theorem run_row (h : IsRow fields t) (rows : List (List Text)) (row : List Text) :
    ∃ done field place, fields = done ++ [field] ∧
      State.run ⟨rows, row, .start⟩ t = some ⟨rows, row ++ done, place⟩ ∧ place.field? = some field ∧
      (t ≠ [] → done = [] → place ≠ .start) := by
  induction h generalizing row with
  | last hField =>
    obtain ⟨place, hRun, hPlace, hStart⟩ := run_field hField rows row
    exact ⟨[], _, place, rfl, by rwa [List.append_nil], hPlace, fun hNonempty _ => hStart hNonempty⟩
  | @cons field t rest fields hField hRest ih =>
    obtain ⟨place, hRun, hPlace, _⟩ := run_field hField rows row
    obtain ⟨done, last, final, rfl, hRunRest, hFinal, _⟩ := ih (row ++ [field])
    refine ⟨field :: done, last, final, rfl, ?_, hFinal, fun _ hNone => by cases hNone⟩
    have hComma : State.step ⟨rows, row, place⟩ ',' = some ⟨rows, row ++ [field], .start⟩ :=
      step_of_field hPlace (.inl rfl) (by decide)
    rw [run_append, hRun, Option.bind_some, run_cons, hComma, Option.bind_some, hRunRest,
      List.append_assoc, List.singleton_append]

theorem run_ending (h : Text.IsLineEnd t) (hPlace : place.field? = some field) :
    State.run ⟨rows, row, place⟩ t = some ⟨rows ++ [row ++ [field]], [], .start⟩ := by
  rcases h with rfl | rfl
  · have hFeed : State.step ⟨rows, row, place⟩ '\n' = some ⟨rows ++ [row ++ [field]], [], .start⟩ :=
      step_of_field hPlace (.inr (.inr (.inr rfl))) (by decide)
    rw [run_cons, hFeed]
    rfl
  · have hReturn : State.step ⟨rows, row, place⟩ '\r' =
        some ⟨rows ++ [row ++ [field]], [], .returned⟩ :=
      step_of_field hPlace (.inr (.inr (.inl rfl))) (by decide)
    rw [run_cons, hReturn]
    rfl

theorem finish?_of_field (hPlace : place.field? = some field) (h : row = [] → place ≠ .start) :
    State.finish? ⟨rows, row, place⟩ = some (rows ++ [row ++ [field]]) := by
  cases place with
  | start =>
    cases hPlace
    have hRow : row.isEmpty = false := List.isEmpty_eq_false_iff.mpr fun hNone => h hNone rfl
    simp only [State.finish?, hRow]
    rfl
  | bare value | closed value =>
    cases hPlace
    rfl
  | quoted value | returned => cases hPlace

theorem run_table (h : IsTable rows t) (before : List (List Text)) :
    (State.run ⟨before, [], .start⟩ t).bind State.finish? = some (before ++ rows) := by
  induction h generalizing before with
  | nil => rw [List.append_nil]; rfl
  | last hRow hNonempty =>
    obtain ⟨done, field, place, rfl, hRun, hPlace, hStart⟩ := run_row hRow before []
    rw [hRun, Option.bind_some]
    exact finish?_of_field hPlace (hStart hNonempty)
  | @cons row t ending rest rows hRow hEnd _ ih =>
    obtain ⟨done, field, place, rfl, hRun, hPlace, _⟩ := run_row hRow before []
    rw [run_append, hRun, Option.bind_some, run_append, run_ending hEnd hPlace, Option.bind_some, ih,
      List.append_assoc]
    rfl

/-! ## Texts that are read are written -/

/-- What stands before a field: rows with their endings, and fields with a comma after each. -/
structure Opens (rows : List (List Text)) (row : List Text) (ended opened : Text) : Prop where
  table : ∀ others rest, IsTable others rest → IsTable (rows ++ others) (ended ++ rest)
  fields : ∀ fields rest, IsRow fields rest → IsRow (row ++ fields) (opened ++ rest)
  nil_iff : row = [] ↔ opened = []

theorem opens_nil : Opens [] [] [] [] := ⟨fun _ _ h => h, fun _ _ h => h, by simp⟩

theorem Opens.comma {ended opened : Text} (h : Opens rows row ended opened) (hField : IsField field t) :
    Opens rows (row ++ [field]) ended (opened ++ (t ++ [','])) := by
  refine ⟨h.table, fun fields rest hRow => ?_, by simp⟩
  have hNext := h.fields _ _ (.cons hField hRow)
  simpa only [List.append_assoc, List.singleton_append] using hNext

theorem Opens.ending {ended opened ending : Text} (h : Opens rows row ended opened)
    (hField : IsField field t) (hEnd : Text.IsLineEnd ending) :
    Opens (rows ++ [row ++ [field]]) [] (ended ++ (opened ++ (t ++ ending))) [] := by
  refine ⟨fun others rest hTable => ?_, fun _ _ hRow => hRow, by simp⟩
  have hRows := h.table _ _ (.cons (h.fields _ _ (.last hField)) hEnd hTable)
  simpa only [List.append_assoc, List.singleton_append] using hRows

/-- What has been read when the reader stands at a place. -/
inductive Stands : State → Text → Prop where
  | start {rows row ended opened} (h : Opens rows row ended opened) :
      Stands ⟨rows, row, .start⟩ (ended ++ opened)
  | bare {rows row ended opened field} (h : Opens rows row ended opened) (hNonempty : field ≠ [])
      (hFree : ∀ c ∈ field, ¬ IsMark c) :
      Stands ⟨rows, row, .bare field⟩ (ended ++ (opened ++ field))
  | quoted {rows row ended opened} (field : Text) (h : Opens rows row ended opened) :
      Stands ⟨rows, row, .quoted field⟩ (ended ++ (opened ++ '"' :: field.flatMap doubled))
  | closed {rows row ended opened} (field : Text) (h : Opens rows row ended opened) :
      Stands ⟨rows, row, .closed field⟩ (ended ++ (opened ++ '"' :: (field.flatMap doubled ++ ['"'])))
  | returned {rows row ended opened field t} (h : Opens rows row ended opened)
      (hField : IsField field t) :
      Stands ⟨rows ++ [row ++ [field]], [], .returned⟩ (ended ++ (opened ++ (t ++ ['\r'])))

variable {s next : State}

theorem stands_delimit {ended opened : Text} {c : Char} (h : Opens rows row ended opened)
    (hField : IsField field t) (hStep : State.delimit ⟨rows, row, place⟩ field c = some next) :
    Stands next (ended ++ (opened ++ (t ++ [c]))) := by
  unfold State.delimit at hStep
  split at hStep
  · rename_i hComma
    cases hStep
    subst hComma
    exact .start (h.comma hField)
  · split at hStep
    · rename_i hFeed
      cases hStep
      subst hFeed
      have hStart := Stands.start (h.ending hField (.inl rfl))
      rwa [List.append_nil] at hStart
    · split at hStep
      · rename_i hReturn
        cases hStep
        subst hReturn
        exact .returned h hField
      · cases hStep

theorem Stands.step (h : Stands s t) {c : Char} (hStep : s.step c = some next) :
    Stands next (t ++ [c]) := by
  cases h with
  | @start rows row ended opened h =>
    simp only [State.step] at hStep
    split at hStep
    · rename_i hQuote
      cases hStep
      subst hQuote
      rw [List.append_assoc]
      exact .quoted [] h
    · split at hStep
      · rw [List.append_assoc]
        exact stands_delimit h (.bare (by simp)) hStep
      · rename_i hFree
        cases hStep
        rw [List.append_assoc]
        exact .bare h (List.cons_ne_nil _ _) (List.forall_mem_singleton.mpr hFree)
  | @bare rows row ended opened field h hNonempty hFree =>
    simp only [State.step] at hStep
    rw [List.append_assoc, List.append_assoc]
    split at hStep
    · exact stands_delimit h (.bare hFree) hStep
    · rename_i hChar
      cases hStep
      refine .bare h (by simp) (List.forall_mem_append.mpr ⟨hFree, ?_⟩)
      exact List.forall_mem_singleton.mpr hChar
  | @quoted rows row ended opened field h =>
    simp only [State.step] at hStep
    rw [List.append_assoc, List.append_assoc, List.cons_append]
    split at hStep
    · rename_i hQuote
      cases hStep
      subst hQuote
      exact .closed field h
    · rename_i hQuote
      cases hStep
      have hLonger := Stands.quoted (field ++ [c]) h
      rwa [List.flatMap_append, List.flatMap_singleton, doubled, if_neg hQuote] at hLonger
  | @closed rows row ended opened field h =>
    simp only [State.step] at hStep
    rw [List.append_assoc, List.append_assoc]
    split at hStep
    · rename_i hQuote
      cases hStep
      subst hQuote
      have hLonger := Stands.quoted (field ++ ['"']) h
      rw [List.flatMap_append, List.flatMap_singleton, doubled, if_pos rfl] at hLonger
      simpa using hLonger
    · exact stands_delimit h (.quoted field) hStep
  | @returned rows row ended opened field t h hField =>
    simp only [State.step] at hStep
    split at hStep
    · rename_i hFeed
      cases hStep
      subst hFeed
      have hStart := Stands.start (h.ending hField (.inr rfl))
      simpa using hStart
    · cases hStep

theorem Stands.run {rest : Text} (h : Stands s t) (hRun : s.run rest = some next) :
    Stands next (t ++ rest) := by
  induction rest generalizing s t with
  | nil =>
    cases hRun
    rwa [List.append_nil]
  | cons c rest ih =>
    obtain ⟨middle, hStep, hRest⟩ := Option.bind_eq_some_iff.mp hRun
    have hAll := ih (h.step hStep) hRest
    rwa [List.append_assoc, List.singleton_append] at hAll

theorem Stands.isTable (h : Stands s t) (hFinish : s.finish? = some rows) : IsTable rows t := by
  cases h with
  | @start rows row ended opened h =>
    simp only [State.finish?] at hFinish
    split at hFinish
    · rename_i hEmpty
      cases hFinish
      rw [h.nil_iff.mp (List.isEmpty_iff.mp hEmpty)]
      have hTable := h.table [] [] .nil
      rwa [List.append_nil] at hTable
    · rename_i hSome
      cases hFinish
      have hEmpty : IsField [] [] := .bare (by simp)
      have hRow := h.fields _ _ (.last hEmpty)
      rw [List.append_nil] at hRow
      have hNonempty : opened ≠ [] := fun hNone => hSome (List.isEmpty_iff.mpr (h.nil_iff.mpr hNone))
      exact h.table _ _ (.last hRow hNonempty)
  | @bare rows row ended opened field h hNonempty hFree =>
    cases hFinish
    exact h.table _ _ (.last (h.fields _ _ (.last (.bare hFree))) (by simp [hNonempty]))
  | @closed rows row ended opened field h =>
    cases hFinish
    exact h.table _ _ (.last (h.fields _ _ (.last (.quoted field))) (by simp))
  | quoted => cases hFinish
  | returned => cases hFinish

/-- The reader accepts the texts that are written by the rules, and no others. -/
theorem read?_eq_some_iff : read? t = some rows ↔ IsTable rows t := by
  constructor
  · intro h
    obtain ⟨s, hRun, hFinish⟩ := Option.bind_eq_some_iff.mp h
    exact (Stands.run (.start opens_nil) hRun).isTable hFinish
  · intro h
    exact run_table h []

end ServiceProbe.Csv
