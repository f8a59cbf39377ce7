import ServiceProbe.Text.Blank

/-! # UTF-8

Texts become bytes, and bytes become texts in which every ill-formed part is one replacement
character: a part is the longest beginning of a character that can still be completed, or one byte
that begins none. -/

namespace ServiceProbe.Text
set_option autoImplicit false

def utf8 (t : Text) : List UInt8 := t.flatMap String.utf8EncodeChar

/-- The number of bytes of a character by its first byte. -/
def utf8Width? (b : UInt8) : Option Nat :=
  if b < 0x80 then some 1
  else if 0xC2 ≤ b && b < 0xE0 then some 2
  else if 0xE0 ≤ b && b < 0xF0 then some 3
  else if 0xF0 ≤ b && b < 0xF5 then some 4
  else none

def isContinuation (b : UInt8) : Bool := 0x80 ≤ b && b < 0xC0

/-- The second bytes that can follow a first byte: they leave out over-long forms, surrogates and
what lies above the last character. -/
def isSecond (first second : UInt8) : Bool :=
  if first == 0xE0 then 0xA0 ≤ second && second < 0xC0
  else if first == 0xED then 0x80 ≤ second && second < 0xA0
  else if first == 0xF0 then 0x90 ≤ second && second < 0xC0
  else if first == 0xF4 then 0x80 ≤ second && second < 0x90
  else isContinuation second

def payloadBits (b : UInt8) : Nat := b.toNat % 64

/-- The character at the front of some bytes and its width, or the width of the ill-formed part
there. -/
def frontChar : List UInt8 → Except Nat (Char × Nat)
  | [] => .error 0
  | a :: rest =>
    match utf8Width? a, rest with
    | some 1, _ => .ok (Char.ofNat a.toNat, 1)
    | some 2, b :: _ =>
      if isSecond a b then .ok (Char.ofNat (a.toNat % 32 * 64 + payloadBits b), 2) else .error 1
    | some 3, b :: c :: _ =>
      if !isSecond a b then .error 1
      else if !isContinuation c then .error 2
      else .ok (Char.ofNat (a.toNat % 16 * 4096 + payloadBits b * 64 + payloadBits c), 3)
    | some 4, b :: c :: d :: _ =>
      if !isSecond a b then .error 1
      else if !isContinuation c then .error 2
      else if !isContinuation d then .error 3
      else .ok (Char.ofNat (a.toNat % 8 * 262144 + payloadBits b * 4096 + payloadBits c * 64 +
        payloadBits d), 4)
    | some 3, b :: _ => if isSecond a b then .error 2 else .error 1
    | some 4, b :: c :: _ =>
      if !isSecond a b then .error 1 else if isContinuation c then .error 3 else .error 2
    | some 4, b :: _ => if isSecond a b then .error 2 else .error 1
    | _, _ => .error 1

def replacement : Char := Char.ofNat 0xFFFD

/-- Decodes the bytes after the next `skip`. -/
def decodeFrom : Nat → List UInt8 → Text
  | _, [] => []
  | skip + 1, _ :: rest => decodeFrom skip rest
  | 0, a :: rest =>
    match frontChar (a :: rest) with
    | .ok (c, width) => c :: decodeFrom (width - 1) rest
    | .error width => replacement :: decodeFrom (width - 1) rest

def decodeLossy (bs : List UInt8) : Text := decodeFrom 0 bs

/-- The text of well-formed bytes. -/
def decodeStrictFrom : Nat → List UInt8 → Option Text
  | _, [] => some []
  | skip + 1, _ :: rest => decodeStrictFrom skip rest
  | 0, a :: rest =>
    match frontChar (a :: rest) with
    | .ok (c, width) => (decodeStrictFrom (width - 1) rest).map (c :: ·)
    | .error _ => none

def decode? (bs : List UInt8) : Option Text := decodeStrictFrom 0 bs

end ServiceProbe.Text
