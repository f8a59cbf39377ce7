import ServiceProbe.Decimal.Rounding

/-! # Shortest decimals

The text of a binary number has the fewest digits that still round to it, and of those the ones
nearest to it. How the digits are laid out is the decision of a format. -/

namespace ServiceProbe.Decimal
set_option autoImplicit false

/-- The reals that round to a binary number, as numerators over one denominator. -/
structure Interval where
  low : Nat
  middle : Nat
  high : Nat
  den : Nat
  /-- Whether both ends round to the number. -/
  closed : Bool

namespace Interval

def ofBinary (x : Binary) : Interval :=
  let below := if x.mantissa = 1 <<< (Binary.places - 1) then 1 else 2
  let (scale, den) := (⟨1, x.exponent - 2⟩ : Binary).toQuotient
  ⟨(4 * x.mantissa - below) * scale, 4 * x.mantissa * scale, (4 * x.mantissa + 2) * scale, den,
    x.mantissa % 2 = 0⟩

def holds (i : Interval) (n : Nat) : Bool :=
  if i.closed then i.low ≤ n && n ≤ i.high else i.low < n && n < i.high

/-- The multiple of `10 ^ place` that lies in the interval and is nearest to its middle. -/
def multiple? (i : Interval) (place : Int) : Option Nat :=
  let scale := if 0 ≤ place then 1 else Nat.pow 10 (-place).toNat
  let unit := if 0 ≤ place then i.den * Nat.pow 10 place.toNat else i.den
  let scaled : Interval := ⟨i.low * scale, i.middle * scale, i.high * scale, i.den, i.closed⟩
  let q := scaled.middle / unit
  let near := nearest scaled.middle unit
  let far := if near = q then q + 1 else q
  if scaled.holds (near * unit) then some near
  else if scaled.holds (far * unit) then some far
  else none

end Interval

/-- The places of the digits, from the highest that is tried on. -/
def highestPlace : Int := 25

def placesTried : Nat := 100

/-- The digits of a binary number as one whole number, and the place of the last of them. -/
def shortest? (x : Binary) : Option (Nat × Int) :=
  (List.range placesTried).findSome? fun (i : Nat) =>
    let place := highestPlace - i
    ((Interval.ofBinary x).multiple? place).map fun digits => (digits, place)

/-- What a format decides about its numbers. -/
structure Layout where
  /-- The exponents between which a number is written without one. -/
  leastExponent : Int
  mostExponent : Int
  mark : Char
  /-- What stands before an exponent that is not negative. -/
  plus : Text
  /-- What ends a whole number that is written without an exponent. -/
  wholeEnd : Text

namespace Layout

def sign (l : Layout) (exponent : Int) : Text := if exponent < 0 then ['-'] else l.plus

/-- The first digit, the other ones behind a point, and the exponent. -/
def withExponent (l : Layout) (ds : Text) (exponent : Int) : Text :=
  let fraction := if ds.length = 1 then [] else '.' :: ds.drop 1
  ds.take 1 ++ fraction ++ l.mark :: l.sign exponent ++ Text.ofNat exponent.natAbs

/-- The digits with a point among them, before them or after them. -/
def withPoint (l : Layout) (ds : Text) (exponent : Int) : Text :=
  let point := exponent + 1
  if ds.length ≤ point then ds ++ List.replicate (point.toNat - ds.length) '0' ++ l.wholeEnd
  else if 0 < point then ds.take point.toNat ++ '.' :: ds.drop point.toNat
  else ['0', '.'] ++ List.replicate (-point).toNat '0' ++ ds

/-- The text of a whole number of tens. -/
def renderDigits (l : Layout) (digits : Nat) (place : Int) : Text :=
  let ds := Text.ofNat digits
  let exponent : Int := ds.length + place - 1
  if l.leastExponent ≤ exponent && exponent ≤ l.mostExponent then l.withPoint ds exponent
  else l.withExponent ds exponent

def render (l : Layout) (x : Binary) : Text :=
  if x.mantissa = 0 then '0' :: l.wholeEnd
  else (shortest? x).elim [] fun (digits, place) => l.renderDigits digits place

end Layout

end ServiceProbe.Decimal
