import ServiceProbe.Finger
import ServiceProbe.Template
import ServiceProbe.Unicode.Letter

/-! # Version information

After the pattern of a rule come the fields that a match fills in, each a tag and a template between
two equal delimiters. Words that are no field are passed over, and a field without its closing
delimiter ends the list. -/

namespace ServiceProbe
set_option autoImplicit false

inductive Field where
  | product
  | version
  | info
  | hostname
  | os
  | deviceType
  | cpe
  deriving DecidableEq, Repr

namespace Field

def ofTag? : Char → Option Field
  | 'p' => some product
  | 'v' => some version
  | 'i' => some info
  | 'h' => some hostname
  | 'o' => some os
  | 'd' => some deviceType
  | _ => none

/-- The finger with a value in the field. Platform names gather, and of any other field the last
value stays. -/
def put (field : Field) (value : String) (f : Finger) : Finger :=
  match field with
  | product => { f with product := some value }
  | version => { f with version := some value }
  | info => { f with info := some value }
  | hostname => { f with hostname := some value }
  | os => { f with os := some value }
  | deviceType => { f with deviceType := some value }
  | cpe => { f with cpe := f.cpe ++ [value] }

end Field

abbrev VersionInfo := List (Field × Template)

namespace VersionInfo

def isDelimiter (c : Char) : Bool := !Unicode.isAlphanumeric c && !Text.isBlank c

/-- The field that a text begins with, and the text from the opening delimiter on. -/
def tag? (t : Text) : Option (Field × Text) :=
  match Text.after? "cpe:".toList t with
  | some after => some (.cpe, after)
  | none =>
    match t with
    | tag :: delimiter :: rest =>
      if isDelimiter delimiter then
        (Field.ofTag? tag).map fun field => (field, delimiter :: rest)
      else none
    | _ => none

/-- A platform name may be marked with a letter after its closing delimiter. -/
def dropMark (field : Field) (t : Text) : Text :=
  match field, t with
  | .cpe, 'a' :: rest => rest
  | _, t => t

theorem length_tag? {t rest : Text} {field : Field} (h : tag? t = some (field, rest)) :
    rest.length ≤ t.length := by
  unfold tag? at h
  split at h
  · rename_i after hAfter
    obtain ⟨_, rfl⟩ := Prod.mk.inj (Option.some.inj h)
    exact Text.length_after? hAfter
  · split at h
    · split at h
      · obtain ⟨found, _, hEq⟩ := Option.map_eq_some_iff.mp h
        obtain ⟨_, rfl⟩ := Prod.mk.inj hEq
        simp
      · cases h
    · cases h

theorem length_dropMark (field : Field) (t : Text) : (dropMark field t).length ≤ t.length := by
  unfold dropMark
  split
  · simp
  · exact Nat.le_refl _

theorem length_trimStart (t : Text) : t.trimStart.length ≤ t.length :=
  (List.dropWhile_sublist _).length_le

theorem length_delimited? {t inside after : Text} (h : Text.delimited? t = some (inside, after)) :
    after.length < t.length := by
  cases t with
  | nil => cases h
  | cons d body => exact Nat.lt_succ_of_lt (Text.length_cutAt? h)

/-- Reads the fields of a text that begins with no blank. -/
def parseFrom (t : Text) : VersionInfo :=
  match t with
  | [] => []
  | c :: rest =>
    match hTag : tag? (c :: rest) with
    | none =>
      have : (Text.trimStart (Text.word rest).2).length < (c :: rest).length :=
        Nat.lt_succ_of_le (Nat.le_trans (length_trimStart _) (List.dropWhile_sublist _).length_le)
      parseFrom (Text.trimStart (Text.word rest).2)
    | some (field, body) =>
      match hBody : Text.delimited? body with
      | none => []
      | some (inside, after) =>
        have : (dropMark field after).trimStart.length < (c :: rest).length :=
          Nat.lt_of_le_of_lt (Nat.le_trans (length_trimStart _) (length_dropMark _ _))
            (Nat.lt_of_lt_of_le (length_delimited? hBody) (length_tag? hTag))
        (field, Template.parse inside) :: parseFrom (dropMark field after).trimStart
termination_by t.length
decreasing_by
  all_goals exact this

def parse (t : Text) : VersionInfo := parseFrom t.trimStart

/-- Puts what the templates make of the groups into a finger. What comes out empty is left out. -/
def fill (groups : Nat → Option Bytes) (fields : VersionInfo) (f : Finger) : Finger :=
  fields.foldl (fun f (field, template) =>
    let value := template.render groups
    if value.isEmpty then f else field.put (String.ofList value) f) f

end VersionInfo
end ServiceProbe
