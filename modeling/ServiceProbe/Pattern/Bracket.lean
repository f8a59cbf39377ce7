import ServiceProbe.Pattern.Escape

/-! # Bracketed classes

A class in brackets is a union of characters, ranges, named classes and nested classes. The
operators for intersection, difference and symmetric difference stand between unions and bind from
the left. -/

namespace ServiceProbe.Pattern.Reader
set_option autoImplicit false
open ServiceProbe.Unicode

def asciiRanges : List (String × List (Nat × Nat)) := [
  ("alnum", [(0x30, 0x39), (0x41, 0x5A), (0x61, 0x7A)]),
  ("alpha", [(0x41, 0x5A), (0x61, 0x7A)]),
  ("ascii", [(0x00, 0x7F)]),
  ("blank", [(0x09, 0x09), (0x20, 0x20)]),
  ("cntrl", [(0x00, 0x1F), (0x7F, 0x7F)]),
  ("digit", [(0x30, 0x39)]),
  ("graph", [(0x21, 0x7E)]),
  ("lower", [(0x61, 0x7A)]),
  ("print", [(0x20, 0x7E)]),
  ("punct", [(0x21, 0x2F), (0x3A, 0x40), (0x5B, 0x60), (0x7B, 0x7E)]),
  ("space", [(0x09, 0x0D), (0x20, 0x20)]),
  ("upper", [(0x41, 0x5A)]),
  ("word", [(0x30, 0x39), (0x41, 0x5A), (0x5F, 0x5F), (0x61, 0x7A)]),
  ("xdigit", [(0x30, 0x39), (0x41, 0x46), (0x61, 0x66)])]

/-- The ranges of a named ASCII class, whether they are negated, and what follows it. A text that is
not quite such a name is no error: it is read as a nested class. -/
def asciiClass? : Text → Option (List (Nat × Nat) × Bool × Text)
  | '[' :: ':' :: inner =>
    let negated := inner.head? == some '^'
    let inner := if negated then inner.drop 1 else inner
    match Text.cutOn? ':' inner with
    | some (name, ']' :: tail) =>
      (asciiRanges.lookup (String.ofList name)).map (·, negated, tail)
    | _ => none
  | _ => none

/-- A set with how deep the classes nest in its notation. -/
structure Nested where
  set : CharClass
  depth : Nat

/-- The items of a union so far: their set, how many they are, and the depth of the deepest. -/
structure Items where
  set : CharClass
  count : Nat
  depth : Nat

namespace Items

def none (wide : Bool) : Items := ⟨.empty wide, 0, 0⟩

def add (items : Items) (item : Nested) : Items :=
  ⟨items.set.union item.set, items.count + 1, max items.depth item.depth⟩

def toNested (items : Items) : Nested :=
  ⟨items.set, if 2 ≤ items.count then items.depth + 1 else items.depth⟩

end Items

inductive SetOp where
  | inter
  | diff
  | symmDiff

def SetOp.apply (fold : Bool) (op : SetOp) (left right : Nested) : Nested :=
  let s := left.set.foldIf fold
  let t := right.set.foldIf fold
  let set :=
    match op with
    | .inter => s.inter t
    | .diff => s.diff t
    | .symmDiff => s.symmDiff t
  ⟨set, max left.depth right.depth + 1⟩

/-- The set on the left of an operator that waits for its right side. -/
abbrev Waiting := Option (SetOp × Nested)

def Waiting.close (fold : Bool) (waiting : Waiting) (items : Items) : Nested :=
  match waiting with
  | none => items.toNested
  | some (op, left) => op.apply fold left items.toNested

/-- The code of a literal as a member of a class. Classes of bytes have no other characters than
those of ASCII. -/
def memberCode (unicode : Bool) (c : Char) (isByte : Bool) : Reader Nat :=
  match Symbol.ofLiteral unicode c isByte with
  | .byte b => pure b.toNat
  | .char c => if unicode || c.toNat < 128 then pure c.toNat else reject

/-- One character of a class, or what its backslash introduces. -/
def member : Reader Atom := do
  let c ← next
  if c == '\\' then escape else plain c

/-- Drops blanks and one number sign among them. What a comment says is not dropped. -/
def dropSign (t : Text) : Text :=
  match t.dropWhile Text.isBlank with
  | '#' :: inner => inner.dropWhile Text.isBlank
  | rest => rest

/-- The character after the current one and any space. -/
def peekPast : Reader (Option Char) := do
  let past := (← rest).drop 1
  return (if (← switches).verbose then dropSign past else past).head?

def codeOf (unicode : Bool) : Atom → Reader Nat
  | .literal c isByte => memberCode unicode c isByte
  | _ => reject

def charOf : Atom → Reader Char
  | .literal c _ => pure c
  | _ => reject

/-- A character, a range or a named class. -/
def item : Reader Nested := do
  let unicode := (← switches).unicode
  let first ← member
  skipSpace
  let c ← current
  let past ← peekPast
  if c != '-' || past == some ']' || past == some '-' then
    match first with
    | .charClass set => pure ⟨set, 0⟩
    | atom => do
      let code ← codeOf unicode atom
      pure ⟨.ofRanges unicode [(code, code)], 0⟩
  else
    bumpSpace
    guard !(← atEnd)
    let last ← member
    guard ((← charOf first) ≤ (← charOf last))
    return ⟨.ofRanges unicode [(← codeOf unicode first, ← codeOf unicode last)], 0⟩

/-- The hyphens that may open a class, and the closing bracket that is a member when it stands
first. -/
def leadingMembers (wide : Bool) : Nat → Items → Reader Items
  | 0, items => pure items
  | fuel + 1, items => do
    let c ← current
    let take (code : Nat) : Reader Items := do
      bumpSpace
      guard !(← atEnd)
      pure (items.add ⟨.ofRanges wide [(code, code)], 0⟩)
    if c == '-' then do leadingMembers wide fuel (← take 0x2D)
    else if c == ']' && items.count == 0 then take 0x5D
    else pure items

def setOp? : Reader (Option SetOp) := do
  if ← bumpIf "&&" then pure (some .inter)
  else if ← bumpIf "--" then pure (some .diff)
  else if ← bumpIf "~~" then pure (some .symmDiff)
  else pure none

mutual

/-- The rest of a class after its opening bracket. -/
def bracket (fuel : Nat) : Reader Nested :=
  match fuel with
  | 0 => reject
  | fuel + 1 => do
    let switches ← switches
    skipSpace
    let negated := (← current) == '^'
    if negated then bumpSpace
    guard !(← atEnd)
    let items ← leadingMembers switches.unicode fuel (.none switches.unicode)
    let inner ← bracketItems fuel none items
    pure ⟨(inner.set.foldIf switches.ignoreCase).complIf negated, inner.depth + 1⟩
termination_by (fuel, 1)

/-- The items up to the closing bracket. -/
def bracketItems (fuel : Nat) (waiting : Waiting) (items : Items) : Reader Nested :=
  match fuel with
  | 0 => reject
  | fuel + 1 => do
    let switches ← switches
    skipSpace
    let c ← current
    if c == '[' then
      match asciiClass? (← rest) with
      | some (ranges, negated, tail) => do
        setRest tail
        let set := ((CharClass.ofRanges switches.unicode ranges).foldIf switches.ignoreCase).complIf
          negated
        bracketItems fuel waiting (items.add ⟨set, 0⟩)
      | none => do
        bump
        let nested ← bracket fuel
        bracketItems fuel waiting (items.add nested)
    else if c == ']' then do
      bump
      pure (waiting.close switches.ignoreCase items)
    else
      match (← setOp?) with
      | some op => do
        let left := waiting.close switches.ignoreCase items
        bracketItems fuel (some (op, left)) (.none switches.unicode)
      | none => do
        let found ← item
        bracketItems fuel waiting (items.add found)
termination_by (fuel, 0)

end

end ServiceProbe.Pattern.Reader
