import ServiceProbe.Text.Blank

/-! # Numbers in texts

A number is written in decimal digits of ASCII, with any number of zeros in front. Readers of
unsigned numbers accept one plus sign before them and refuse what lies above their limit. -/

namespace ServiceProbe.Text
set_option autoImplicit false

def digitValue (c : Char) : Nat := c.toNat - '0'.toNat

def readDecimal? (t : Text) : Option Nat :=
  if t.isEmpty || !t.all Char.isDigit then none
  else some (t.foldl (fun n c => 10 * n + digitValue c) 0)

def dropPlus : Text → Text
  | '+' :: rest => rest
  | t => t

/-- An unsigned number of at most `limit`. -/
def readUnsigned? (limit : Nat) (t : Text) : Option Nat :=
  (readDecimal? (dropPlus t)).filter (· ≤ limit)

/-- A number between `-2^63` and `2^63 - 1`, with one sign of either kind allowed. -/
def readSigned? : Text → Option Int
  | '-' :: rest => ((readDecimal? rest).filter (· ≤ UInt64.size / 2)).map fun n => -(n : Int)
  | t => (readUnsigned? (UInt64.size / 2 - 1) t).map fun n => (n : Int)

def ofNat (n : Nat) : Text := Nat.toDigits 10 n

def hexValue? (c : Char) : Option Nat :=
  if '0' ≤ c && c ≤ '9' then some (c.toNat - '0'.toNat)
  else if 'a' ≤ c && c ≤ 'f' then some (c.toNat - 'a'.toNat + 10)
  else if 'A' ≤ c && c ≤ 'F' then some (c.toNat - 'A'.toNat + 10)
  else none

def readHex? (t : Text) : Option Nat :=
  if t.isEmpty then none
  else t.foldlM (fun n c => (hexValue? c).map (16 * n + ·)) 0

end ServiceProbe.Text
