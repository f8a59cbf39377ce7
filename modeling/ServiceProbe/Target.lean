import ServiceProbe.Address
import ServiceProbe.Port.Range

/-! # Targets

A target is a host and a port. Its address joins them with a colon; a host that is an address of
version 6 stands between brackets. -/

namespace ServiceProbe
set_option autoImplicit false

structure Target where
  host : String
  port : Port
  address : String
  deriving DecidableEq, Repr

namespace Target

def bracketed (host : Text) : Text :=
  if (Address.readV6? host).isSome then '[' :: host ++ [']'] else host

def addressOf (host : Text) (port : Port) : Text := bracketed host ++ ':' :: Text.ofNat port.toNat

def ofHostPort (host : String) (port : Port) : Target :=
  ⟨host, port, String.ofList (addressOf host.toList port)⟩

end Target
end ServiceProbe
