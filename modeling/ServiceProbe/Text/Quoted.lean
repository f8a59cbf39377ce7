import ServiceProbe.Text.Blank
import ServiceProbe.Unicode.Property

/-! # Quoted texts

A quoted text stands between double quotes. Quotes, backslashes, control characters, invisible
characters and marks that would join the character before them are written as escapes. -/

namespace ServiceProbe.Text
set_option autoImplicit false

/-- The characters beyond ASCII that are not written as they are. Those that the seventeenth version
of the standard brings in are visible. -/
def invisible : Unicode.Formula :=
  (Unicode.other ∪ Unicode.separator ∪ Unicode.graphemeExtend ∪ Unicode.defaultIgnorable) \ .runs
    ["2191 1 972 1 127 1 5092 1 2772 1 31799 2 2 1 1 1 28 1 21457 16 445 2 54 7 2929 26 1387 3 8 9",
     "3208 1 3 1 1 1 584 44 4 10 20662 25 2 25 286 5 6145 8 1289 22 97 115 16135 3 445 23 15 17 6095",
     "31 1 3 1 2 1 7 2 5 9 2 4056 1 158 4 341 9 379 4 50 1 3 1 57 1 4 1 28 1 4 1 266 1 47935 6 5986",
     "12 21762 4298"]

def invisibleTable : Unicode.CodeTable := .ofSet invisible.toSet

def escape (c : Char) : Text :=
  if c = '"' then ['\\', '"']
  else if c = '\\' then ['\\', '\\']
  else if c = '\n' then ['\\', 'n']
  else if c = '\r' then ['\\', 'r']
  else if c = '\t' then ['\\', 't']
  else if c = '\x00' then ['\\', '0']
  else if 0x20 ≤ c.toNat && c.toNat < 0x7F then [c]
  else if c.toNat < 0x80 || invisibleTable.contains c.toNat then
    "\\u\x7b".toList ++ Nat.toDigits 16 c.toNat ++ ['\x7d']
  else [c]

def quoted (t : Text) : Text := ['"'] ++ t.flatMap escape ++ ['"']

end ServiceProbe.Text
