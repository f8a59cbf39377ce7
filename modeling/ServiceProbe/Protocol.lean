import ServiceProbe.Error
import ServiceProbe.Text.Blank

/-! # Transport protocols -/

namespace ServiceProbe
set_option autoImplicit false

inductive Protocol where
  | tcp
  | udp
  deriving DecidableEq, Repr

namespace Protocol

def name : Protocol → String
  | tcp => "tcp"
  | udp => "udp"

/-- The name in capitals that stands for the protocol in documents. -/
def tag : Protocol → String
  | tcp => "TCP"
  | udp => "UDP"

/-- A name in any case. -/
def parse (t : Text) : Except Error Protocol :=
  match t.map Char.toLower with
  | ['t', 'c', 'p'] => pure tcp
  | ['u', 'd', 'p'] => pure udp
  | _ => throw (.parse ("unknown protocol '" ++ String.ofList t ++ "'"))

end Protocol
end ServiceProbe
