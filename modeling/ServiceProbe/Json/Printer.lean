import ServiceProbe.Decimal.Shortest
import ServiceProbe.Json
import ServiceProbe.Text.Blank

/-! # Printing JSON

The compact form has no blanks at all. The pretty form has every item and every member on a line of
its own, two blanks deeper than what it belongs to; an empty array or object stays on one line. -/

namespace ServiceProbe.Json
set_option autoImplicit false

def hexDigits (n : Nat) : Text := [Nat.digitChar (n / 16 % 16), Nat.digitChar (n % 16)]

/-- Binary numbers have an exponent below `1e-5` and from `1e16` on, and are never written like whole
numbers. -/
def numbers : Decimal.Layout := ⟨-5, 15, 'e', ['+'], ['.', '0']⟩

/-- Quotes, backslashes and control characters are escaped, and nothing else is. -/
def escape (c : Char) : Text :=
  if c = '"' then ['\\', '"']
  else if c = '\\' then ['\\', '\\']
  else if c = '\n' then ['\\', 'n']
  else if c = '\r' then ['\\', 'r']
  else if c = '\t' then ['\\', 't']
  else if c = '\x08' then ['\\', 'b']
  else if c = '\x0c' then ['\\', 'f']
  else if c.toNat < 0x20 then ['\\', 'u', '0', '0'] ++ hexDigits c.toNat
  else [c]

def quote (s : String) : Text := '"' :: s.toList.flatMap escape ++ ['"']

def boolText (b : Bool) : Text := (toString b).toList

mutual

def compact : Json → Text
  | null => ['n', 'u', 'l', 'l']
  | bool value => boolText value
  | natural value => Text.ofNat value
  | binary value => numbers.render value
  | string value => quote value
  | array [] => ['[', ']']
  | array (item :: items) => '[' :: compact item ++ compactItems items
  | object [] => ['\x7b', '\x7d']
  | object ((key, value) :: members) =>
    '\x7b' :: quote key ++ ':' :: compact value ++ compactMembers members

def compactItems : List Json → Text
  | [] => [']']
  | item :: items => ',' :: compact item ++ compactItems items

def compactMembers : List (String × Json) → Text
  | [] => ['\x7d']
  | (key, value) :: members => ',' :: quote key ++ ':' :: compact value ++ compactMembers members

end

/-- The end of a line and the indent of the next one. -/
def newLine (depth : Nat) : Text := '\n' :: List.replicate (2 * depth) ' '

mutual

/-- The pretty form of a value that belongs to something at the given depth. -/
def pretty (depth : Nat) : Json → Text
  | null => ['n', 'u', 'l', 'l']
  | bool value => boolText value
  | natural value => Text.ofNat value
  | binary value => numbers.render value
  | string value => quote value
  | array [] => ['[', ']']
  | array (item :: items) =>
    '[' :: newLine (depth + 1) ++ pretty (depth + 1) item ++ prettyItems depth items
  | object [] => ['\x7b', '\x7d']
  | object ((key, value) :: members) =>
    '\x7b' :: newLine (depth + 1) ++ quote key ++ ':' :: ' ' :: pretty (depth + 1) value ++
      prettyMembers depth members

def prettyItems (depth : Nat) : List Json → Text
  | [] => newLine depth ++ [']']
  | item :: items =>
    ',' :: newLine (depth + 1) ++ pretty (depth + 1) item ++ prettyItems depth items

def prettyMembers (depth : Nat) : List (String × Json) → Text
  | [] => newLine depth ++ ['\x7d']
  | (key, value) :: members =>
    ',' :: newLine (depth + 1) ++ quote key ++ ':' :: ' ' :: pretty (depth + 1) value ++
      prettyMembers depth members

end

end ServiceProbe.Json
