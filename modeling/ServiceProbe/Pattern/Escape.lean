import ServiceProbe.Pattern.CharClass
import ServiceProbe.Pattern.Cursor
import ServiceProbe.Text.Cut
import ServiceProbe.Unicode.Name
import ServiceProbe.Unicode.Word

/-! # Escapes

What a backslash introduces: a character by its code, a class with a name, an assertion, or a
punctuation character that stands for itself. Codes in base eight have up to three digits. -/

namespace ServiceProbe.Pattern
set_option autoImplicit false
open ServiceProbe.Unicode

inductive Atom where
  /-- A character; `isByte` when two hexadecimal digits give it, so that it may be a raw byte. -/
  | literal (c : Char) (isByte : Bool)
  | look (assertion : Assertion)
  | charClass (set : CharClass)

/-- What a literal stands for: a character, or a byte outside of ASCII. -/
inductive Symbol where
  | char (c : Char)
  | byte (b : UInt8)

def Symbol.ofLiteral (unicode : Bool) (c : Char) (isByte : Bool) : Symbol :=
  if !unicode && isByte && 0x7F < c.toNat then .byte (UInt8.ofNat c.toNat) else .char c

namespace Reader

def isMeta (c : Char) : Bool := c ∈ "\\.+*?()|[]\x7b\x7d^$#&-~".toList

/-- The ASCII characters that a backslash leaves as they are. -/
def isEscapable (c : Char) : Bool :=
  isMeta c || (c.toNat < 128 && !c.isAlphanum && c != '<' && c != '>')

def isOctal (c : Char) : Bool := '0' ≤ c && c ≤ '7'

def octal : Reader Atom := do
  let digits := ((← rest).takeWhile isOctal).take 3
  setRest ((← rest).drop digits.length)
  pure (.literal (Char.ofNat (digits.foldl (fun n c => 8 * n + Text.digitValue c) 0)) false)

/-- The character with a hexadecimal code. -/
def charOfHex (digits : Text) : Reader Char :=
  match Text.readHex? digits with
  | some n => if n.isValidChar then pure (Char.ofNat n) else reject
  | none => reject

def isHex (c : Char) : Bool := (Text.hexValue? c).isSome

/-- Exactly `n` hexadecimal digits, with the space between and after them. -/
def hexDigits : Nat → Reader Text
  | 0 => pure []
  | n + 1 => do
    let c ← current
    guard (isHex c)
    bumpSpace
    return c :: (← hexDigits n)

def hexWidth (kind : Char) : Nat := if kind == 'x' then 2 else if kind == 'u' then 4 else 8

def hex (kind : Char) : Reader Atom := do
  skipSpace
  if (← current) == '{' then
    bumpSpace
    let digits ← takeWhileSpaced isHex
    guard ((← current) == '\x7d')
    bumpSpace
    return .literal (← charOfHex digits) false
  else
    return .literal (← charOfHex (← hexDigits (hexWidth kind))) (kind == 'x')

def digitSet : CharClass := .bytes (.range 0x30 0x39)

def spaceSet : CharClass := .bytes (.ofRanges [(0x09, 0x0D), (0x20, 0x20)])

def wordByteSet : CharClass :=
  .bytes (.ofRanges [(0x30, 0x39), (0x41, 0x5A), (0x5F, 0x5F), (0x61, 0x7A)])

/-- The classes of digits, blanks and word characters, by their lower-case letters. -/
def shorthand (unicode : Bool) (kind : Char) : CharClass :=
  if unicode then
    if kind == 'd' then .codes decimalNumber.toSet
    else if kind == 's' then .codes whiteSpace.toSet
    else .codes wordCharacter.toSet
  else if kind == 'd' then digitSet
  else if kind == 's' then spaceSet
  else wordByteSet

/-- The set that a property's name or `name=value` in braces stands for. -/
def namedSet? (name : Text) : Option (CodeSet × Bool) :=
  match Text.cutMark? ['!', '='] name with
  | some (property, value) => (byValue? property value).map (·, true)
  | none =>
    match (Text.cutOn? ':' name).or (Text.cutOn? '=' name) with
    | some (property, value) => (byValue? property value).map (·, false)
    | none => (byName? name).map (·, false)

/-- A class by a Unicode property, which only patterns that ask for Unicode may name. -/
def property (negated : Bool) : Reader Atom := do
  let switches ← switches
  skipSpace
  let c ← next
  let name ←
    if c == '{' then do
      skipSpace
      let name ← takeWhileSpaced (· != '\x7d')
      guard ((← next) == '\x7d')
      pure name
    else do
      guard (c != '\\')
      pure [c]
  guard switches.unicode
  match namedSet? name with
  | none => reject
  | some (set, isNot) =>
    pure (.charClass ((CharClass.codes set |>.foldIf switches.ignoreCase).complIf (negated != isNot)))

def isBoundaryName (c : Char) : Bool := c.isAlpha || c == '-'

def edgeNames : List (String × WordEdge) :=
  [("start", .start), ("end", .finish), ("start-half", .startHalf), ("end-half", .finishHalf)]

/-- The name in braces that may follow a word boundary. Braces that do not open with a name are
left to be read as a repetition. -/
def boundaryEdge : Reader WordEdge := do
  match (← rest) with
  | '{' :: tail =>
    let switches ← switches
    let tail := spaced switches.verbose tail
    guard !tail.isEmpty
    if tail.head?.any isBoundaryName then
      setRest tail
      let name ← takeWhileSpaced isBoundaryName
      guard ((← next) == '\x7d')
      match edgeNames.lookup (String.ofList name) with
      | some edge => pure edge
      | none => reject
    else pure .boundary
  | _ => pure .boundary

def plain (c : Char) : Reader Atom := pure (.literal c false)

/-- What follows a backslash. -/
def escape : Reader Atom := do
  let c ← current
  let unicode := (← switches).unicode
  if isOctal c then octal
  else
    bump
    if c == 'x' || c == 'u' || c == 'U' then hex c
    else if c == 'p' || c == 'P' then property (c == 'P')
    else if c ∈ ['d', 's', 'w', 'D', 'S', 'W'] then
      pure (.charClass ((shorthand unicode c.toLower).complIf c.isUpper))
    else if isEscapable c then plain c
    else
      match c with
      | 'a' => plain '\x07'
      | 'f' => plain '\x0c'
      | 't' => plain '\t'
      | 'n' => plain '\n'
      | 'r' => plain '\r'
      | 'v' => plain '\x0b'
      | 'A' => pure (.look .textStart)
      | 'z' => pure (.look .textEnd)
      | 'b' => return .look (.word (← boundaryEdge) unicode)
      | 'B' => pure (.look (.word .inside unicode))
      | '<' => pure (.look (.word .start unicode))
      | '>' => pure (.look (.word .finish unicode))
      | _ => reject

end Reader
end ServiceProbe.Pattern
