import ServiceProbe.Address.Zone

/-! # Resolvers

A resolver turns the name of a host into addresses. The forms that need no lookup are addresses
themselves, with or without a zone, and short forms of version 4: up to four numbers, each decimal, octal with a zero in front
or hexadecimal with `0x` in front, of which the last fills what the others leave. -/

namespace ServiceProbe
set_option autoImplicit false

inductive ResolverFault where
  | nulByte
  /-- No host can have the name. -/
  | impossibleName
  | unansweredName
  deriving DecidableEq, Repr

namespace ResolverFault

def message : ResolverFault → String
  | nulByte => "file name contained an unexpected NUL byte"
  | impossibleName => "failed to lookup address information: Name or service not known"
  | unansweredName =>
    "failed to lookup address information: Temporary failure in name resolution"

end ResolverFault

abbrev Resolver := Text → Except ResolverFault (List Location)

namespace Resolver

def readOctal? (t : Text) : Option Nat :=
  if t.all fun c => '0' ≤ c && c ≤ '7' then some (Digits.value 8 (t.map Text.digitValue))
  else none

/-- A number in the base that its beginning says. -/
def readPart? (t : Text) : Option Nat :=
  match t with
  | '0' :: 'x' :: digits | '0' :: 'X' :: digits => Text.readHex? digits
  | '0' :: digits => readOctal? digits
  | _ => Text.readDecimal? t

/-- Whole bytes in front, and a last number that fills the rest of the address. -/
def assemble? : List Nat → Nat → Option Nat
  | [], _ => none
  | [last], free => if last < Nat.pow 256 free then some last else none
  | part :: rest, free =>
    if part < 256 && 1 < free then (assemble? rest (free - 1)).map (part * Nat.pow 256 (free - 1) + ·)
    else none

/-- An address of version 4 in one of its short forms. -/
def readShort? (t : Text) : Option Address := do
  let parts ← (t.splitOn '.').mapM readPart?
  let n ← assemble? parts 4
  pure (.v4 (BitVec.ofNat 32 n))

def readAddress? (t : Text) : Option Location :=
  ((Address.read? t).or (readShort? t)).map fun address => ⟨address, 0⟩

def isNameChar (c : Char) : Bool := c.isAlphanum || c = '-' || c = '_' || c = '.'

/-- The resolver that looks nothing up. -/
def numeric : Resolver := fun t =>
  if '\x00' ∈ t then throw .nulByte
  else
    match (readAddress? t).or (Location.read? t) with
    | some location => pure [location]
    | none =>
      throw (if t.isEmpty || !t.all isNameChar then .impossibleName else .unansweredName)

end Resolver
end ServiceProbe
