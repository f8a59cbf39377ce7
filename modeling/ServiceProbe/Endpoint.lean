import ServiceProbe.Address.Resolver
import ServiceProbe.Error
import ServiceProbe.Port.Range

/-! # Endpoints

An endpoint is an address, with its zone, and a port. Its text has the port after the last colon; an address of
version 6 stands between brackets. A host that is no address is left to the resolver. -/

namespace ServiceProbe
set_option autoImplicit false

structure Endpoint where
  location : Location
  port : Port
  deriving DecidableEq

/-- Why a text names no endpoint. -/
inductive EndpointFault where
  | withoutPort
  | badPort
  | resolver (fault : ResolverFault)
  deriving DecidableEq, Repr

namespace EndpointFault

def message : EndpointFault → String
  | withoutPort => "invalid socket address"
  | badPort => "invalid port value"
  | resolver fault => fault.message

end EndpointFault

namespace Endpoint

/-- What stands before the last colon, and what follows it. -/
def cutLastColon? (t : Text) : Option (Text × Text) :=
  (Text.cutOn? ':' t.reverse).map fun (port, host) => (host.reverse, port.reverse)

def readPort? (t : Text) : Option Port := (Text.readUnsigned? 65535 t).map UInt16.ofNat

/-- An address of version 6 between brackets. -/
def readBracketed? : Text → Option Location
  | '[' :: rest => if rest.getLast? = some ']' then Location.readNumbered? rest.dropLast else none
  | _ => none

/-- The address that needs no resolver. A sign before the port takes the brackets their meaning. -/
def readLocation? (host port : Text) : Option Location :=
  match Address.readV4? host with
  | some bits => some ⟨.v4 bits, 0⟩
  | none => if port.all Char.isDigit then readBracketed? host else none

def resolve (resolver : Resolver) (t : Text) : Except EndpointFault (List Endpoint) :=
  match cutLastColon? t with
  | none => throw .withoutPort
  | some (host, portText) =>
    match readPort? portText with
    | none => throw .badPort
    | some port =>
      match readLocation? host portText with
      | some location => pure [⟨location, port⟩]
      | none =>
        match resolver host with
        | .ok locations => pure (locations.map fun location => ⟨location, port⟩)
        | .error fault => throw (.resolver fault)

end Endpoint
end ServiceProbe
