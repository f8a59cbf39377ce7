import ServiceProbe.Unicode.CodeSet

/-! # The bytes of a set of characters

The UTF-8 forms of the characters in a set are a list of rows, and a row is a range of bytes for
each place. The rows ascend, none shares a form with another, and a row that cannot be one range at
every place is cut. -/

namespace ServiceProbe.Pattern
set_option autoImplicit false
open ServiceProbe.Unicode

/-- The bytes from a first to a last one. -/
abbrev ByteRange := Nat × Nat

/-- A range of bytes for each place of a character. -/
abbrev ByteRow := List ByteRange

/-- The last code points that take one, two and three bytes. -/
def widthEnds : List Nat := [0x7F, 0x7FF, 0xFFFF]

def utf8Codes (n : Nat) : List Nat :=
  if n ≤ 0x7F then [n]
  else if n ≤ 0x7FF then [0xC0 + n / 64, 0x80 + n % 64]
  else if n ≤ 0xFFFF then [0xE0 + n / 4096, 0x80 + n / 64 % 64, 0x80 + n % 64]
  else [0xF0 + n / 262144, 0x80 + n / 4096 % 64, 0x80 + n / 64 % 64, 0x80 + n % 64]

/-- The number of bytes of a code point. -/
def utf8Length (n : Nat) : Nat := (utf8Codes n).length

/-- Where a range of code points has to be cut so that each part is one row. -/
def cut? (low high : Nat) : Option Nat :=
  (widthEnds.find? fun m => low ≤ m && m < high).or <|
    if high ≤ 0x7F then none
    else
      [64, 4096, 262144].findSome? fun block =>
        if low / block = high / block then none
        else if low % block ≠ 0 then some (low - low % block + block - 1)
        else if high % block ≠ block - 1 then some (high - high % block - 1)
        else none

/-- The rows of a range of code points. Five cuts by width and ten by block suffice. -/
def rowsOfRange : Nat → Nat → Nat → List ByteRow
  | 0, _, _ => []
  | fuel + 1, low, high =>
    match cut? low high with
    | some m => rowsOfRange fuel low m ++ rowsOfRange fuel (m + 1) high
    | none => [(utf8Codes low).zip (utf8Codes high)]

def byteRows (s : CodeSet) : List ByteRow := s.flatMap fun (low, high) => rowsOfRange 32 low high

end ServiceProbe.Pattern
