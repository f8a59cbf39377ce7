import ServiceProbe.Text.Number

/-! # Rounding

Quotients of natural numbers are rounded to the nearest number of a grid, and a quotient halfway
between two of them to the even one. A binary number has 53 digits in base two and is rounded after
every operation. -/

namespace ServiceProbe.Decimal
set_option autoImplicit false

/-- The whole number nearest to a quotient. -/
def nearest (num den : Nat) : Nat :=
  let q := num / den
  let r := num % den
  if den < 2 * r || (2 * r = den && q % 2 = 1) then q + 1 else q

/-- A quotient divided by a power of a base. -/
def shiftDown (base : Nat) (place : Int) (num den : Nat) : Nat × Nat :=
  if 0 ≤ place then (num, den * Nat.pow base place.toNat) else (num * Nat.pow base (-place).toNat, den)

/-- The number `mantissa * 2 ^ exponent`. -/
structure Binary where
  mantissa : Nat
  exponent : Int
  deriving DecidableEq, Repr

namespace Binary

def places : Nat := 53

/-- A mantissa with one digit too many is the smallest one at the next exponent. -/
def normal (mantissa : Nat) (exponent : Int) : Binary :=
  if mantissa = 1 <<< places then ⟨1 <<< (places - 1), exponent + 1⟩ else ⟨mantissa, exponent⟩

/-- The exponent at which a quotient has a mantissa of the right length. -/
def exponentOf (num den : Nat) : Int :=
  let guess : Int := (num.log2 : Int) - den.log2 - (places - 1)
  let (a, b) := shiftDown 2 guess num den
  if a < b <<< (places - 1) then guess - 1 else guess

/-- The binary number nearest to a quotient. -/
def ofQuotient (num den : Nat) : Binary :=
  if num = 0 then ⟨0, 0⟩
  else
    let exponent := exponentOf num den
    let (a, b) := shiftDown 2 exponent num den
    normal (nearest a b) exponent

def ofNat (n : Nat) : Binary := ofQuotient n 1

def toQuotient (x : Binary) : Nat × Nat :=
  if 0 ≤ x.exponent then (x.mantissa <<< x.exponent.toNat, 1)
  else (x.mantissa, 1 <<< (-x.exponent).toNat)

def add (x y : Binary) : Binary :=
  let (a, b) := x.toQuotient
  let (c, d) := y.toQuotient
  ofQuotient (a * d + c * b) (b * d)

def mul (x y : Binary) : Binary :=
  let (a, b) := x.toQuotient
  let (c, d) := y.toQuotient
  ofQuotient (a * c) (b * d)

def div (x y : Binary) : Binary :=
  let (a, b) := x.toQuotient
  let (c, d) := y.toQuotient
  ofQuotient (a * d) (b * c)

/-- The text with one place after the point. -/
def oneDecimal (x : Binary) : String :=
  let (a, b) := x.toQuotient
  let tenths := nearest (10 * a) b
  toString (tenths / 10) ++ "." ++ toString (tenths % 10)

end Binary
end ServiceProbe.Decimal
