import ServiceProbe.Text.Blank
import ServiceProbe.Text.Number

/-! # Reading a pattern

The place in a pattern that is being read, with the switches in force there. In verbose patterns
blanks and comments between the parts mean nothing. -/

namespace ServiceProbe.Pattern
set_option autoImplicit false

structure Switches where
  ignoreCase : Bool
  multiLine : Bool
  dotMatchesNewLine : Bool
  swapGreed : Bool
  unicode : Bool
  anyLineEnd : Bool
  verbose : Bool

/-- The switches at the beginning of a pattern. -/
def Switches.initial (ignoreCase dotMatchesNewLine : Bool) : Switches :=
  ⟨ignoreCase, false, dotMatchesNewLine, false, false, false, false⟩

structure Cursor where
  rest : Text
  switches : Switches
  groups : Nat
  names : List Text

/-- A step of reading; `none` refuses the pattern. -/
abbrev Reader := StateT Cursor Option

namespace Reader

def reject {α : Type} : Reader α := fun _ => none

def guard (b : Bool) : Reader Unit := if b then pure () else reject

/-- Drops blanks and the comments that reach from a number sign to the end of the line. -/
def dropVerbose : Bool → Text → Text
  | _, [] => []
  | true, c :: rest => dropVerbose (c != '\n') rest
  | false, c :: rest =>
    if Text.isBlank c then dropVerbose false rest
    else if c == '#' then dropVerbose true rest
    else c :: rest

def spaced (verbose : Bool) (t : Text) : Text := if verbose then dropVerbose false t else t

def rest : Reader Text := return (← get).rest

def switches : Reader Switches := return (← get).switches

def setRest (t : Text) : Reader Unit := modify fun c => { c with rest := t }

def setSwitches (s : Switches) : Reader Unit := modify fun c => { c with switches := s }

def peek? : Reader (Option Char) := return (← rest).head?

def atEnd : Reader Bool := return (← rest).isEmpty

def skipSpace : Reader Unit := modify fun c => { c with rest := spaced c.switches.verbose c.rest }

def bump : Reader Unit := modify fun c => { c with rest := c.rest.drop 1 }

/-- Passes a character and the space after it. -/
def bumpSpace : Reader Unit := do
  bump
  skipSpace

/-- The next character, which must be there. -/
def current : Reader Char := fun cursor =>
  match cursor.rest with
  | [] => none
  | c :: _ => some (c, cursor)

def next : Reader Char := do
  let c ← current
  bump
  pure c

/-- Passes `lead` if the rest begins with it. -/
def bumpIf (lead : String) : Reader Bool := do
  match lead.toList.isPrefixOf? (← rest) with
  | some tail => do
    setRest tail
    pure true
  | none => pure false

/-- Passes the characters with `p` one by one, with the space after each, and gives them. -/
def takeSpaced (p : Char → Bool) : Nat → Reader Text
  | 0 => pure []
  | fuel + 1 => do
    match (← rest) with
    | [] => pure []
    | c :: _ =>
      if p c then do
        bumpSpace
        return c :: (← takeSpaced p fuel)
      else pure []

def takeWhileSpaced (p : Char → Bool) : Reader Text := do takeSpaced p (← rest).length

/-- A count of at most 32 bits, with blanks around it. -/
def count? : Reader (Option Nat) := do
  modify fun c => { c with rest := Text.trimStart c.rest }
  let digits ← takeWhileSpaced Char.isDigit
  let _ ← takeWhileSpaced Text.isBlank
  if digits.isEmpty then pure none
  else
    match (Text.readDecimal? digits).filter (· < UInt32.size) with
    | some n => pure (some n)
    | none => reject

end Reader
end ServiceProbe.Pattern
