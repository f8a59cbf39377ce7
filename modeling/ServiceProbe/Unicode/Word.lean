import ServiceProbe.Unicode.Property

/-! # Word characters

The characters that words are made of: letters, marks, decimal digits, connecting punctuation and
the two joining controls. -/

namespace ServiceProbe.Unicode
set_option autoImplicit false

def wordCharacter : Formula :=
  alphabetic ∪ mark ∪ decimalNumber ∪ connectorPunctuation ∪ joinControl

def wordTable : CodeTable := .ofSet wordCharacter.toSet

def isWord (c : Char) : Bool :=
  if c.toNat < 128 then c.isAlphanum || c == '_' else wordTable.contains c.toNat

end ServiceProbe.Unicode
