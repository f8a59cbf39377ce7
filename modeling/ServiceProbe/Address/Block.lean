import ServiceProbe.Address

/-! # Blocks of addresses

A block is written as an address and the length of the prefix that its addresses share. In the text
of a block the numbers of an address may have zeros in front, and a double colon may stand for
nothing. -/

namespace ServiceProbe
set_option autoImplicit false

inductive Block where
  | v4 (bits : BitVec 32) (length : Fin 33)
  | v6 (bits : BitVec 128) (length : Fin 129)
  deriving DecidableEq

namespace Block

/-- A length of up to `places` digits that is at most `limit`. -/
def readLength? (places limit : Nat) (t : Text) : Option (Fin (limit + 1)) :=
  if t.length ≤ places then
    (Text.readDecimal? t).bind fun n => if h : n < limit + 1 then some ⟨n, h⟩ else none
  else none

def readV4? (address length : Text) : Option Block := do
  let n ← Address.readOctets? true address
  let length ← readLength? 2 32 length
  pure (v4 (BitVec.ofNat 32 n) length)

def readV6? (address length : Text) : Option Block := do
  let groups ← Address.readSixteenths? true 0 address
  let length ← readLength? 3 128 length
  pure (v6 (Address.ofGroups groups) length)

def read? (t : Text) : Option Block := do
  let (address, length) ← Text.cutOn? '/' t
  (readV4? address length).or (readV6? address length)

/-- The number of bits that the addresses of the block do not share. -/
def hostBits : Block → Nat
  | v4 _ length => 32 - length.val
  | v6 _ length => 128 - length.val

/-- The number of addresses, as far as 128 bits can say it. -/
def size (b : Block) : Nat := min (1 <<< b.hostBits) (1 <<< 128 - 1)

/-- The first of the numbers that share all but the last `hostBits` bits with `n`. -/
def base (n hostBits : Nat) : Nat := n >>> hostBits <<< hostBits

/-- The numbers of the addresses that hosts may have. In version 4 the first and the last address of
a block are left out where it has more than two. -/
def hostNumbers : Block → List Nat
  | v4 bits length =>
    let free := 32 - length.val
    let first := base bits.toNat free
    if 1 < free then List.range' (first + 1) (1 <<< free - 2) else List.range' first (1 <<< free)
  | v6 bits length =>
    let free := 128 - length.val
    List.range' (base bits.toNat free) (1 <<< free)

def ofNumber : Block → Nat → Address
  | v4 _ _, n => .v4 (BitVec.ofNat 32 n)
  | v6 _ _, n => .v6 (BitVec.ofNat 128 n)

def hosts (b : Block) : List Address := b.hostNumbers.map b.ofNumber

def render : Block → Text
  | v4 bits length => Address.renderV4 bits ++ '/' :: Text.ofNat length.val
  | v6 bits length => Address.renderV6 bits ++ '/' :: Text.ofNat length.val

end Block
end ServiceProbe
