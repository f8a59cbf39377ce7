import ServiceProbe.Address

/-! # Zones

An address that holds on one link only means different hosts on different interfaces. A zone after a
percent sign says which interface is meant, by its number or, for such an address, by its name. -/

namespace ServiceProbe
set_option autoImplicit false

/-- An address with the number of the interface that it holds on, or zero where none is said. -/
structure Location where
  address : Address
  zone : Nat
  deriving DecidableEq

namespace Address

/-- Addresses of hosts on one link. -/
def isLinkLocal (bits : BitVec 128) : Bool := bits >>> 118 = 0x3FA

def isMulticast (bits : BitVec 128) : Bool := bits >>> 120 = 0xFF

/-- How far a group reaches: 1 is the interface itself, 2 its link. -/
def reach (bits : BitVec 128) : Nat := (bits >>> 112).toNat % 16

/-- Groups of hosts on one link. -/
def isLinkLocalGroup (bits : BitVec 128) : Bool := isMulticast bits && reach bits = 2

/-- Addresses that say nothing without a zone. -/
def needsZone (bits : BitVec 128) : Bool :=
  isLinkLocal bits || (isMulticast bits && (reach bits = 1 || reach bits = 2))

end Address

namespace Location

def readZoneNumber? (t : Text) : Option Nat := (Text.readDecimal? t).filter (· < UInt32.size)

/-- The interfaces that every machine has, by their names. -/
def interfaces : List (String × Nat) := [("lo", 1)]

def readZone? (bits : BitVec 128) (t : Text) : Option Nat :=
  let named :=
    if Address.isLinkLocal bits || Address.isLinkLocalGroup bits then
      interfaces.lookup (String.ofList t)
    else none
  named.or (readZoneNumber? t)

/-- An address of version 6 with a zone. -/
def read? (t : Text) : Option Location := do
  let (host, zone) ← Text.cutOn? '%' t
  let bits ← Address.readV6? host
  let zone ← readZone? bits zone
  pure ⟨.v6 bits, zone⟩

/-- An address of version 6 that may have the number of a zone. -/
def readNumbered? (t : Text) : Option Location :=
  match Text.cutOn? '%' t with
  | none => (Address.readV6? t).map fun bits => ⟨.v6 bits, 0⟩
  | some (host, zone) => do
    let bits ← Address.readV6? host
    let zone ← readZoneNumber? zone
    pure ⟨.v6 bits, zone⟩

end Location
end ServiceProbe
