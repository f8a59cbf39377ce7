import ServiceProbe.Decimal.Rounding
import ServiceProbe.Text.Cut
import ServiceProbe.Text.Number

/-! # Reading JSON

The tokens of JSON are read from the front of a text. A text that cannot go on as JSON is malformed,
and one that ends too early is truncated. A value of the wrong type is a mismatch, which is noticed
as soon as the value has been read. -/

namespace ServiceProbe
set_option autoImplicit false

/-- Why a text is no document of some type. -/
inductive JsonFault where
  | malformed
  | truncated
  | mismatched
  deriving DecidableEq, Repr

abbrev JsonReader := StateT Text (Except JsonFault)

namespace JsonReader

def isGap (c : Char) : Bool := c = ' ' || c = '\n' || c = '\t' || c = '\r'

def fail {α : Type} (fault : JsonFault) : JsonReader α := throw fault

/-- The next character after any gaps. -/
def peek? : JsonReader (Option Char) := do
  modify (List.dropWhile isGap)
  pure (← get).head?

/-- The next character after any gaps. There has to be one. -/
def peek : JsonReader Char := do
  match (← peek?) with
  | some c => pure c
  | none => fail .truncated

def drop : JsonReader Unit := modify (List.drop 1)

/-- Reads what is left of a word. -/
def rest : Text → JsonReader Unit
  | [] => pure ()
  | c :: more => do
    match (← get) with
    | [] => fail .truncated
    | d :: _ => if c = d then (do drop; rest more) else fail .malformed

def high? (n : Nat) : Bool := 0xD800 ≤ n && n < 0xDC00

def low? (n : Nat) : Bool := 0xDC00 ≤ n && n < 0xE000

/-- The four hexadecimal digits that a text begins with. -/
def unit (t : Text) : Except JsonFault Nat :=
  let digits := t.take 4
  if Text.utf8Length digits < 4 then throw .truncated
  else if digits.length = 4 then
    match Text.readHex? digits with
    | some n => pure n
    | none => throw .malformed
  else throw .malformed

def simpleEscape? (c : Char) : Option Char :=
  if c = '"' || c = '\\' || c = '/' then some c
  else if c = 'b' then some '\x08'
  else if c = 'f' then some '\x0c'
  else if c = 'n' then some '\n'
  else if c = 'r' then some '\r'
  else if c = 't' then some '\t'
  else none

/-- The second half of a pair of units, from the backslash on. -/
def lowUnit : Text → Except JsonFault Nat
  | [] | ['\\'] => throw .truncated
  | '\\' :: 'u' :: digits => do
    let n ← unit digits
    if low? n then pure n else throw .malformed
  | _ => throw .malformed

/-- The character that an escape stands for and the width of the escape. The text follows the
letter of a numeric escape. A `lenient` reader takes halves of pairs for characters. -/
def numericEscape (lenient : Bool) (t : Text) : Except JsonFault (Char × Nat) := do
  let n ← unit t
  if lenient then pure ('?', 6)
  else if low? n then throw .malformed
  else if high? n then
    let m ← lowUnit (t.drop 4)
    pure (Char.ofNat (0x10000 + (n - 0xD800) * 1024 + (m - 0xDC00)), 12)
  else pure (Char.ofNat n, 6)

/-- The character at the front of what a string holds, and its width there. -/
def front (lenient : Bool) (t : Text) : Except JsonFault (Char × Nat) :=
  match t with
  | [] | ['\\'] => throw .truncated
  | '\\' :: 'u' :: digits => numericEscape lenient digits
  | '\\' :: c :: _ =>
    match simpleEscape? c with
    | some d => pure (d, 2)
    | none => throw .malformed
  | c :: _ => if c.toNat < 0x20 then throw .malformed else pure (c, 1)

/-- What a string holds from here to its closing quote, after `skip` characters of an escape. -/
def stringFrom (lenient : Bool) : Nat → Text → Except JsonFault (Text × Text)
  | _, [] => throw .truncated
  | skip + 1, _ :: more => stringFrom lenient skip more
  | 0, c :: more =>
    if c = '"' then pure ([], more)
    else
      match front lenient (c :: more) with
      | .error fault => throw fault
      | .ok (d, width) => (stringFrom lenient (width - 1) more).map fun (s, after) => (d :: s, after)

/-- A string after its opening quote. -/
def stringTail (lenient : Bool) : JsonReader String := fun t =>
  (stringFrom lenient 0 t).map fun (s, after) => (String.ofList s, after)

/-- A number as far as its type goes. -/
inductive Numeral where
  | natural (n : Nat)
  | negative
  | fraction
  deriving DecidableEq, Repr

def digits (t : Text) : Text × Text := (t.takeWhile Char.isDigit, t.dropWhile Char.isDigit)

/-- Digits of which there has to be one. -/
def someDigits (lenient : Bool) (t : Text) : Except JsonFault (Text × Text) :=
  match digits t with
  | ([], after) => throw (if after.isEmpty && !lenient then .truncated else .malformed)
  | found => pure found

def wholePart (lenient : Bool) (t : Text) : Except JsonFault (Text × Text) := do
  let (whole, after) ← someDigits lenient t
  if whole.head? = some '0' && 1 < whole.length then throw .malformed
  pure (whole, after)

def fractionPart (lenient : Bool) : Text → Except JsonFault (Option Text × Text)
  | '.' :: t => do
    let (fraction, after) ← someDigits lenient t
    pure (some fraction, after)
  | t => pure (none, t)

def dropSign : Text → Bool × Text
  | '+' :: t => (false, t)
  | '-' :: t => (true, t)
  | t => (false, t)

def exponentPart (lenient : Bool) : Text → Except JsonFault (Option Int × Text)
  | c :: t =>
    if c = 'e' || c = 'E' then do
      let (negative, t) := dropSign t
      let (exponent, after) ← someDigits lenient t
      let n := (Text.readDecimal? exponent).getD 0
      pure (some (if negative then -(n : Int) else n), after)
    else pure (none, c :: t)
  | [] => pure (none, [])

/-- Takes in digits as long as the number of all of them fits into 64 bits, and gives the others. -/
def takeIn (n : Nat) : Text → Nat × Text
  | [] => (n, [])
  | c :: more =>
    let next := 10 * n + Text.digitValue c
    if next < UInt64.size then takeIn next more else (n, c :: more)

/-- The digits that are taken in, and the power of ten that goes with them. The digits of a fraction
that are left out do not count, those of a whole part do. -/
def scaled (whole fraction : Text) (exponent : Int) : Nat × Int :=
  let (n, left) := takeIn 0 whole
  let (n, out) := takeIn n fraction
  (n, exponent + left.length - (fraction.length - out.length : Nat))

/-- The greatest power of ten that a binary number of 64 bits can be near to. -/
def greatestPower : Int := 308

/-- Whether a number is too large for a binary number of 64 bits, when its digits and its power of
ten are rounded before they are multiplied. -/
def isHuge (significand : Nat) (exponent : Int) : Bool :=
  if significand = 0 || exponent < 0 then false
  else if greatestPower < exponent then true
  else
    let power := Decimal.Binary.ofNat (Nat.pow 10 exponent.toNat)
    let product := (Decimal.Binary.ofNat significand).mul power
    1024 < product.exponent + Decimal.Binary.places

def classify (negative : Bool) (whole : Nat) (plain : Bool) : Numeral :=
  if !plain || UInt64.size ≤ whole then .fraction
  else if !negative then .natural whole
  else if whole = 0 || UInt64.size / 2 < whole then .fraction
  else .negative

/-- A number. A `lenient` reader does not mind its size. -/
def numeralFrom (lenient : Bool) (t : Text) : Except JsonFault (Numeral × Text) := do
  let negative := t.head? = some '-'
  let (whole, after) ← wholePart lenient (if negative then t.drop 1 else t)
  let (fraction, after) ← fractionPart lenient after
  let (exponent, after) ← exponentPart lenient after
  let (significand, place) := scaled whole (fraction.getD []) (exponent.getD 0)
  if !lenient && isHuge significand place then throw .malformed
  let plain := fraction.isNone && exponent.isNone
  pure (classify negative ((Text.readDecimal? whole).getD 0) plain, after)

def numeral (lenient : Bool) : JsonReader Numeral := fun t => numeralFrom lenient t

/-- A value of a type that is not asked for. It is read as far as that type goes. -/
def mismatch {α : Type} : JsonReader α := do
  match (← peek) with
  | 'n' => do drop; rest ['u', 'l', 'l']; fail .mismatched
  | 't' => do drop; rest ['r', 'u', 'e']; fail .mismatched
  | 'f' => do drop; rest ['a', 'l', 's', 'e']; fail .mismatched
  | '"' => do drop; let _ ← stringTail false; fail .mismatched
  | '[' | '\x7b' => fail .mismatched
  | c =>
    if c = '-' || c.isDigit then do
      let _ ← numeral false
      fail .mismatched
    else fail .malformed

end JsonReader
end ServiceProbe
