import ServiceProbe.Error
import ServiceProbe.Pattern.ByteSet
import ServiceProbe.Text.Number

/-! # Payloads

The bytes of a payload stand for themselves, but for a backslash: it gives the byte after it a
meaning of its own, or takes a byte's value from the two bytes after `x`. -/

namespace ServiceProbe
set_option autoImplicit false

inductive PayloadFault where
  | danglingEscape
  | badCode
  deriving DecidableEq, Repr

namespace Payload

/-- The byte that one escaped byte stands for. -/
def unescape (b : UInt8) : UInt8 :=
  if b == 0x30 then 0x00
  else if b == 0x61 then 0x07
  else if b == 0x62 then 0x08
  else if b == 0x66 then 0x0C
  else if b == 0x6E then 0x0A
  else if b == 0x72 then 0x0D
  else if b == 0x74 then 0x09
  else if b == 0x76 then 0x0B
  else b

/-- The value of two bytes as a hexadecimal number, of which the first may be a plus sign. -/
def code? (a b : UInt8) : Option UInt8 :=
  if 0x80 ≤ a || 0x80 ≤ b then none
  else
    (Text.readHex? (Text.dropPlus [Char.ofNat a.toNat, Char.ofNat b.toNat])).map UInt8.ofNat

def decode : Bytes → Except PayloadFault Bytes
  | [] => pure []
  | b :: rest =>
    if b != 0x5C then (b :: ·) <$> decode rest
    else
      match rest with
      | [] => throw .danglingEscape
      | e :: rest =>
        if e != 0x78 then (unescape e :: ·) <$> decode rest
        else
          match rest with
          | high :: low :: rest =>
            match code? high low with
            | some value => (value :: ·) <$> decode rest
            | none => throw .badCode
          | _ => throw .badCode

end Payload
end ServiceProbe
