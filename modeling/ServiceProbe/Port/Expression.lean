import ServiceProbe.Error
import ServiceProbe.Port.Set
import ServiceProbe.Text.Cut
import ServiceProbe.Text.Number

/-! # Port expressions

An expression is a list of terms between commas. A term is one port or a range with a hyphen, and
may begin with a transport letter and a colon, which say nothing about the ports. One bad term
refuses the whole expression. -/

namespace ServiceProbe
set_option autoImplicit false

inductive PortFault where
  | emptyExpression
  | badQualifier (term : Text)
  | badPort (term : Text)
  | reversed (term : Text)
  deriving DecidableEq

namespace PortFault

def message : PortFault → String
  | emptyExpression => "empty port expression"
  | badQualifier term => "invalid transport qualifier in '" ++ String.ofList term ++ "'"
  | badPort term => "invalid port term '" ++ String.ofList term ++ "'"
  | reversed term => "reversed port range '" ++ String.ofList term ++ "'"

def toError (fault : PortFault) : Error := .parse fault.message

end PortFault

namespace PortExpression

def qualifiers : List Text := [['T'], ['U'], ['S'], ['t'], ['u'], ['s']]

/-- A port of the term `term`, with blanks around it. -/
def readPort (t term : Text) : Except PortFault { p : Port // p ≠ 0 } :=
  match Text.readUnsigned? 65535 t.trim with
  | none => throw (.badPort term)
  | some n =>
    if h : UInt16.ofNat n = 0 then throw (.badPort term) else pure ⟨UInt16.ofNat n, h⟩

/-- The part of a trimmed term that names ports. -/
def unqualified (term : Text) : Except PortFault Text :=
  match Text.cutOn? ':' term with
  | none => pure term
  | some (qualifier, rest) =>
    if qualifiers.contains qualifier.trim then pure rest.trim else throw (.badQualifier term)

def readTerm (t : Text) : Except PortFault PortRange := do
  let term := t.trim
  let body ← unqualified term
  match Text.cutOn? '-' body with
  | some (low, high) =>
    let first ← readPort low term
    let last ← readPort high term
    if h : first.val ≤ last.val then pure ⟨first.val, last.val, first.property, h⟩
    else throw (.reversed term)
  | none =>
    let port ← readPort body term
    pure ⟨port.val, port.val, port.property, UInt16.le_refl port.val⟩

/-- The ranges of an expression, in the order of its terms. -/
def read (t : Text) : Except PortFault (List PortRange) :=
  let expression := t.trim
  if expression.isEmpty then throw .emptyExpression
  else (Text.commaParts expression).mapM readTerm

end PortExpression

namespace PortSet

/-- Adds the ports of an expression. The set is given back also when the expression is refused. -/
def load (s : PortSet) (t : Text) : PortSet × Option PortFault :=
  match PortExpression.read t with
  | .ok ranges => (ranges.foldl insertRange s, none)
  | .error fault => (s, some fault)

/-- The set of an expression alone. -/
def parse (t : Text) : Except PortFault PortSet :=
  match empty.load t with
  | (s, none) => pure s
  | (_, some fault) => throw fault

end PortSet
end ServiceProbe
