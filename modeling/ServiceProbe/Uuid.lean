import ServiceProbe.Digits
import ServiceProbe.Text.Cut
import ServiceProbe.Text.Number

/-! # Identifiers of 128 bits

An identifier is written as 32 hexadecimal digits in five groups with hyphens between them. Readers
also take it without the hyphens, and with them between braces or after `urn:uuid:` in any case. -/

namespace ServiceProbe
set_option autoImplicit false

abbrev Uuid := BitVec 128

namespace Uuid

/-- The lengths of the groups. -/
def groups : List Nat := [8, 4, 4, 4, 12]

def readDigits? (t : Text) : Option Uuid :=
  if t.length = 32 then (Text.readHex? t).map (BitVec.ofNat 128) else none

def readHyphenated? (t : Text) : Option Uuid :=
  let parts := t.splitOn '-'
  if parts.map List.length = groups then readDigits? parts.flatten else none

def unbraced? : Text → Option Text
  | '\x7b' :: t => if t.getLast? = some '\x7d' then some t.dropLast else none
  | _ => none

def read? (t : Text) : Option Uuid :=
  match unbraced? t with
  | some inner => readHyphenated? inner
  | none =>
    match Text.after? "urn:uuid:".toList (t.map Char.toLower) with
    | some inner => readHyphenated? inner
    | none => (readDigits? t).or (readHyphenated? t)

/-- Cuts a text into groups of the given lengths. -/
def cut : List Nat → Text → List Text
  | [], _ => []
  | n :: ns, t => t.take n :: cut ns (t.drop n)

def render (id : Uuid) : Text :=
  Text.join '-' (cut groups ((Digits.places 16 id.toNat 32).map Nat.digitChar))

end Uuid
end ServiceProbe
