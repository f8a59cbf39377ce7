import ServiceProbe.Duration
import ServiceProbe.Error
import ServiceProbe.Finger
import ServiceProbe.Pattern.ByteSet
import ServiceProbe.Protocol

/-! # Exchanges

A request carries a payload to an address, and its reply is bytes or an error. A dialogue is what a
scan of one target does: it sends requests one at a time and decides on every reply how to go on. -/

namespace ServiceProbe
set_option autoImplicit false

structure Request where
  protocol : Protocol
  address : String
  payload : Bytes
  /-- The waits that the request declares itself. -/
  totalWait : Option Duration
  tcpWrapped : Option Duration
  deriving DecidableEq

abbrev Reply := Except Error Bytes

/-- Answers a request in view of all requests made before it. -/
abbrev Transport := List Request → Request → Reply

inductive Dialogue where
  | done (finger : Option Finger)
  | send (request : Request) (next : Reply → Dialogue)

namespace Dialogue

/-- Carries a dialogue through, after the requests of `history`. Gives the requests it makes and the
finger. -/
def run (transport : Transport) : Dialogue → List Request → List Request × Option Finger
  | done finger, _ => ([], finger)
  | send request next, history =>
    let (rest, finger) := run transport (next (transport history request)) (history ++ [request])
    (request :: rest, finger)

end Dialogue
end ServiceProbe
