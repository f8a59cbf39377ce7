import ServiceProbe.Digits
import ServiceProbe.Text.Cut
import ServiceProbe.Text.Number

/-! # Addresses

Addresses of both families, their texts and their order within a family. Four decimal numbers make an
address of version 4. Eight groups of hexadecimal digits make one of version 6; the last two groups
may be written as an address of version 4, and one double colon stands for groups of zeros. -/

namespace ServiceProbe
set_option autoImplicit false

inductive Address where
  | v4 (bits : BitVec 32)
  | v6 (bits : BitVec 128)
  deriving DecidableEq, Hashable

namespace Address

/-- A number below 256 of up to three digits. Zeros in front only pass where they are `lenient`. -/
def readOctet? (lenient : Bool) (t : Text) : Option Nat :=
  if t.length ≤ 3 && (lenient || t.length ≤ 1 || t.head? != some '0') then
    (Text.readDecimal? t).filter (· < 256)
  else none

def readOctets? (lenient : Bool) (t : Text) : Option Nat := do
  let octets ← (t.splitOn '.').mapM (readOctet? lenient)
  if octets.length = 4 then some (Digits.value 256 octets) else none

def readV4? (t : Text) : Option (BitVec 32) := (readOctets? false t).map (BitVec.ofNat 32)

def readGroup? (t : Text) : Option Nat := if t.length ≤ 4 then Text.readHex? t else none

/-- Groups of which the last two may be written as an address of version 4. -/
def readGroups? (lenient : Bool) : List Text → Option (List Nat)
  | [] => some []
  | [last] =>
    match readOctets? lenient last with
    | some n => some [n / 65536, n % 65536]
    | none => (readGroup? last).map ([·])
  | group :: rest => do
    let group ← readGroup? group
    let rest ← readGroups? lenient rest
    pure (group :: rest)

def colonParts (t : Text) : List Text := if t.isEmpty then [] else t.splitOn ':'

/-- The eight groups of an address. A double colon stands for at least `gap` groups. -/
def readSixteenths? (lenient : Bool) (gap : Nat) (t : Text) : Option (List Nat) :=
  match Text.cutMark? [':', ':'] t with
  | none => (readGroups? lenient (colonParts t)).filter (·.length = 8)
  | some (head, tail) => do
    let head ← (colonParts head).mapM readGroup?
    let tail ← readGroups? lenient (colonParts tail)
    if head.length < 8 && head.length + tail.length + gap ≤ 8 then
      some (head ++ List.replicate (8 - head.length - tail.length) 0 ++ tail)
    else none

def ofGroups (groups : List Nat) : BitVec 128 := BitVec.ofNat 128 (Digits.value 65536 groups)

def readV6? (t : Text) : Option (BitVec 128) := (readSixteenths? false 1 t).map ofGroups

def read? (t : Text) : Option Address :=
  match readV4? t with
  | some bits => some (v4 bits)
  | none => (readV6? t).map v6

def renderV4 (bits : BitVec 32) : Text :=
  Text.join '.' ((Digits.places 256 bits.toNat 4).map Text.ofNat)

def renderGroups (groups : List Nat) : Text := Text.join ':' (groups.map (Nat.toDigits 16))

/-- The length of the run of zeros that a list begins with. -/
def zeroRun (groups : List Nat) : Nat := (groups.takeWhile (· == 0)).length

/-- The place and the length of the first longest run of zeros. -/
def longestRun (groups : List Nat) : Nat × Nat :=
  (List.range groups.length).foldl (fun best start =>
    let length := zeroRun (groups.drop start)
    if best.2 < length then (start, length) else best) (0, 0)

/-- Lower-case digits without zeros in front. The first longest run of at least two groups of zeros
is left out. An address of version 4 within version 6 keeps its own form. -/
def renderV6 (bits : BitVec 128) : Text :=
  let groups := Digits.places 65536 bits.toNat 8
  if bits >>> 32 = 0xFFFF then
    "::ffff:".toList ++ renderV4 (BitVec.ofNat 32 bits.toNat)
  else
    let (start, length) := longestRun groups
    if length ≤ 1 then renderGroups groups
    else renderGroups (groups.take start) ++ [':', ':'] ++ renderGroups (groups.drop (start + length))

def render : Address → Text
  | v4 bits => renderV4 bits
  | v6 bits => renderV6 bits

/-- The next address of the same family. -/
def next? : Address → Option Address
  | v4 bits => if bits = BitVec.allOnes 32 then none else some (v4 (bits + 1))
  | v6 bits => if bits = BitVec.allOnes 128 then none else some (v6 (bits + 1))

/-- The addresses of a list cut into maximal runs in which each follows the one before. -/
def extendRuns (runs : List (Address × Address)) (a : Address) : List (Address × Address) :=
  match runs with
  | (first, last) :: older => if next? last = some a then (first, a) :: older else (a, a) :: runs
  | [] => [(a, a)]

def runs (addresses : List Address) : List (Address × Address) :=
  (addresses.foldl extendRuns []).reverse

end Address
end ServiceProbe
