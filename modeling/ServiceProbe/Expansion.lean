import ServiceProbe.Address.Block
import ServiceProbe.Address.Resolver
import ServiceProbe.Port.Expression
import ServiceProbe.Text.Cut
import Std.Data.HashSet.Basic

/-! # Expansion of target lists

A list of targets between commas names addresses, blocks, ranges and hosts. Its expansion has every
address once, where it is named first. Blocks and ranges of too many addresses are refused; a host
that cannot be resolved is passed over. -/

namespace ServiceProbe
set_option autoImplicit false

/-- Why a list of targets is refused. -/
inductive ExpansionFault where
  | blank
  | nothingFound
  | largeBlock (block : Block)
  | badEnd (text : Text)
  | reversed
  | longRange (token : Text)
  deriving DecidableEq

namespace Expansion

/-- The most addresses that a block or a range may have. -/
def hostLimit : Nat := 4096

end Expansion

namespace ExpansionFault

def message : ExpansionFault → String
  | blank => "No targets specified"
  | nothingFound => "No valid addresses found in targets"
  | largeBlock block =>
    "CIDR " ++ String.ofList block.render ++ " expands to " ++ toString block.size ++
      " hosts which exceeds the limit of " ++ toString Expansion.hostLimit ++
      ". Set NETRA_ALLOW_LARGE_CIDR=1 to override."
  | badEnd text => "Invalid end IP: " ++ String.ofList text ++ ": invalid IPv4 address syntax"
  | reversed => "Invalid IP range: start > end"
  | longRange token =>
    "IP range " ++ String.ofList token ++ " exceeds the limit of " ++
      toString Expansion.hostLimit ++ " hosts"

end ExpansionFault

/-- Why a list of ports is refused. -/
structure PortListFault where
  list : Text
  fault : PortFault
  deriving DecidableEq

namespace PortListFault

def message (f : PortListFault) : String :=
  "Invalid port list '" ++ String.ofList f.list ++ "': " ++ f.fault.toError.message

end PortListFault

namespace Expansion

/-- The value of the environment that lifts the limit on blocks. -/
def liftsLimit (setting : Option String) : Bool := setting = some "1"

def ofBlock (allowLarge : Bool) (b : Block) : Except ExpansionFault (List Address) :=
  if hostLimit < b.size && !allowLarge then throw (.largeBlock b) else pure b.hosts

/-- The addresses from the first to the last of a range. -/
def ofRange (token : Text) (first : BitVec 32) (last : Text) :
    Except ExpansionFault (List Address) :=
  match Address.readV4? last.trim with
  | none => throw (.badEnd last)
  | some last =>
    if last < first then throw .reversed
    else if hostLimit ≤ last.toNat - first.toNat then throw (.longRange token)
    else
      pure ((List.range' first.toNat (last.toNat - first.toNat + 1)).map fun n =>
        .v4 (BitVec.ofNat 32 n))

/-- The first address of a token that is written as a range, and the text of the last one. -/
def range? (token : Text) : Option (BitVec 32 × Text) := do
  let (first, last) ← Text.cutOn? '-' token
  let first ← Address.readV4? first.trim
  pure (first, last)

def ofHost (resolver : Resolver) (token : Text) : List Address :=
  match resolver token with
  | .ok locations => locations.map Location.address
  | .error _ => []

def ofToken (resolver : Resolver) (allowLarge : Bool) (token : Text) :
    Except ExpansionFault (List Address) :=
  match Block.read? token with
  | some b => ofBlock allowLarge b
  | none =>
    match Address.read? token with
    | some a => pure [a]
    | none =>
      match range? token with
      | some (first, last) => ofRange token first last
      | none => pure (ofHost resolver token)

/-- Adds an address to the ones seen, in reverse order and as a set, unless it is there. -/
def addNew (seen : List Address × Std.HashSet Address) (a : Address) :
    List Address × Std.HashSet Address :=
  if seen.2.contains a then seen else (a :: seen.1, seen.2.insert a)

/-- A list without its repetitions. -/
def unique (addresses : List Address) : List Address :=
  (addresses.foldl addNew ([], ∅)).1.reverse

def tokens (t : Text) : List Text :=
  ((Text.commaParts t).map Text.trim).filter fun token => !token.isEmpty

/-- The addresses of a list of targets. -/
def expand (resolver : Resolver) (allowLarge : Bool) (t : Text) :
    Except ExpansionFault (List Address) := do
  if t.trim.isEmpty then throw .blank
  let parts ← (tokens t).mapM (ofToken resolver allowLarge)
  let addresses := unique parts.flatten
  if addresses.isEmpty then throw .nothingFound
  pure addresses

/-- The ports of a list. -/
def ports (t : Text) : Except PortListFault PortSet :=
  (PortSet.parse t).mapError fun fault => ⟨t, fault⟩

end Expansion
end ServiceProbe
