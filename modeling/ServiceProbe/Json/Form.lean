import ServiceProbe.Json
import ServiceProbe.Json.Skip

/-! # Forms of JSON documents

A form says of what type a document is and reads it to its normal form: members stand in the order
of their declaration and missing ones are filled in where that is allowed. A structure may also be
written as an array of all its members. -/

namespace ServiceProbe
set_option autoImplicit false

/-- Reads a document to its normal form. -/
abbrev Form := JsonReader Json

namespace Form

open JsonReader

def string : Form := do
  if (← peek) = '"' then do
    drop
    let s ← stringTail false
    pure (.string s)
  else mismatch

def bool : Form := do
  match (← peek) with
  | 't' => do drop; rest ['r', 'u', 'e']; pure (.bool true)
  | 'f' => do drop; rest ['a', 'l', 's', 'e']; pure (.bool false)
  | _ => mismatch

/-- A whole number of at most `limit`. -/
def natural (limit : Nat) : Form := do
  let c ← peek
  if c = '-' || c.isDigit then
    match (← numeral false) with
    | .natural n => if n ≤ limit then pure (.natural n) else fail .mismatched
    | _ => fail .mismatched
  else mismatch

def null : Form := do
  if (← peek) = 'n' then do
    drop
    rest ['u', 'l', 'l']
    pure .null
  else mismatch

def option (form : Form) : Form := do
  if (← peek?) = some 'n' then null else form

/-- Whether an array or object goes on after `count` parts, with the comma read if it does. -/
def goesOn (frame : Frame) (count : Nat) : JsonReader Bool := do
  let c ← peek
  if c = frame.closer then pure false
  else if count = 0 then pure true
  else if c = ',' then do
    drop
    if (← peek) = frame.closer then fail .malformed else pure true
  else fail .malformed

/-- The end of an array or object. -/
def close (frame : Frame) : JsonReader Unit := do
  if (← peek) = frame.closer then drop
  else if (← peek) = ',' then do
    drop
    let _ ← peek?
    fail .malformed
  else fail .malformed

def items (form : Form) : Nat → Nat → JsonReader (List Json)
  | 0, _ => fail .truncated
  | fuel + 1, count => do
    if (← goesOn .array count) then do
      let item ← form
      let more ← items form fuel (count + 1)
      pure (item :: more)
    else pure []

def list (form : Form) : Form := do
  if (← peek) = '[' then do
    drop
    let t ← get
    let found ← items form (t.length + 1) 0
    close .array
    pure (.array found)
  else mismatch

structure Member where
  name : String
  form : Form
  /-- What stands for a member that an object does not have. -/
  ifMissing : Option Json := none
  /-- What stands for a member that an array does not reach. -/
  ifBeyond : Option Json := none

namespace Member

def required (name : String) (form : Form) : Member := ⟨name, form, none, none⟩

def optional (name : String) (form : Form) : Member := ⟨name, Form.option form, some .null, none⟩

def defaulted (name : String) (form : Form) (value : Json) : Member :=
  ⟨name, form, some value, some value⟩

end Member

/-- The members of an array, from the place `count` on. -/
def membersOfArray : Nat → List Member → JsonReader (List (String × Json))
  | _, [] => pure []
  | count, m :: ms => do
    if (← goesOn .array count) then do
      let value ← m.form
      let more ← membersOfArray (count + 1) ms
      pure ((m.name, value) :: more)
    else
      match m.ifBeyond with
      | some value => do
        let more ← membersOfArray count ms
        pure ((m.name, value) :: more)
      | none => fail .mismatched

def key : JsonReader String := do
  if (← peek) = '"' then do
    drop
    stringTail false
  else fail .malformed

def colon : JsonReader Unit := do
  if (← peek) = ':' then drop else fail .malformed

/-- The members that an object has. A member that is not known is passed over, unless the object is
`closed`. -/
def membersFound (closed : Bool) (ms : List Member) :
    Nat → Nat → List (String × Json) → JsonReader (List (String × Json))
  | 0, _, _ => fail .truncated
  | fuel + 1, count, found => do
    if (← goesOn .object count) then do
      let name ← key
      match ms.find? fun m => m.name = name with
      | none => do
        if closed then fail .mismatched
        colon
        skip
        membersFound closed ms fuel (count + 1) found
      | some m => do
        if (found.lookup name).isSome then fail .mismatched
        colon
        let value ← m.form
        membersFound closed ms fuel (count + 1) ((name, value) :: found)
    else pure found

/-- The members in the order of their declaration. -/
def arrange (ms : List Member) (found : List (String × Json)) : Option (List (String × Json)) :=
  ms.mapM fun m => ((found.lookup m.name).or m.ifMissing).map fun value => (m.name, value)

def orMismatch {α : Type} : Option α → JsonReader α
  | some a => pure a
  | none => fail .mismatched

/-- A structure, whose members are brought to a normal form of their own by `settle`. -/
def structWith (closed : Bool) (ms : List Member)
    (settle : List (String × Json) → Option (List (String × Json))) : Form := do
  match (← peek) with
  | '[' => do
    drop
    let members ← membersOfArray 0 ms
    let members ← orMismatch (settle members)
    close .array
    pure (.object members)
  | '\x7b' => do
    drop
    let t ← get
    let found ← membersFound closed ms (t.length + 1) 0 []
    let members ← orMismatch ((arrange ms found).bind settle)
    close .object
    pure (.object members)
  | _ => mismatch

def struct (ms : List Member) : Form := structWith false ms some

def nameAmong (names : List String) : Form := do
  let value ← string
  match value with
  | .string name => if name ∈ names then pure value else fail .mismatched
  | _ => fail .mismatched

/-- One of several names, alone or as the only member of an object, with nothing as its value. -/
def choice (names : List String) : Form := do
  match (← peek) with
  | '"' => nameAmong names
  | '\x7b' => do
    drop
    let value ← if (← peek) = '"' then nameAmong names else fail .malformed
    colon
    let _ ← null
    if (← peek) = '\x7d' then drop else fail .malformed
    pure value
  | _ => fail .malformed

/-- Reads a whole text. -/
def readAll (form : Form) (t : Text) : Except JsonFault Json := do
  let (value, after) ← form t
  if after.all isGap then pure value else throw .malformed

end Form
end ServiceProbe
