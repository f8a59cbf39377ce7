import ServiceProbe.Unicode.Property

/-! # Letters and numbers

Names may be made of the letters and numbers of the seventeenth version of the standard, which has
some more than the version that patterns know. The ASCII characters are told apart without the
tables. -/

namespace ServiceProbe.Unicode
set_option autoImplicit false

def newestAlphabetic : Formula :=
  alphabetic ∪ .runs
    ["2191 1 972 1 127 1 39665 2 2 1 1 1 28 1 24910 26 1387 3 50 2 3172 8 584 44 20676 25 2 25 286 5",
     "6145 8 1289 22 97 115 22733 31 1 22 8 2 53306 6 5986 12 21762 4298"]

def newestNumber : Formula := number ∪ .runs ["73184 10 21002 3"]

def alphabeticTable : CodeTable := .ofSet newestAlphabetic.toSet

def numberTable : CodeTable := .ofSet newestNumber.toSet

def isAlphabetic (c : Char) : Bool :=
  if c.toNat < 128 then c.isAlpha else alphabeticTable.contains c.toNat

def isAlphanumeric (c : Char) : Bool :=
  if c.toNat < 128 then c.isAlphanum
  else alphabeticTable.contains c.toNat || numberTable.contains c.toNat

end ServiceProbe.Unicode
