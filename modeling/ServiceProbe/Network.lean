import ServiceProbe.Duration
import ServiceProbe.Endpoint
import ServiceProbe.Pattern.ByteSet

/-! # Networks

What the network makes of a call: an attempt to reach a peer comes about, fails or takes too long. A
connection is known by what came of the write and of every read that followed. -/

namespace ServiceProbe
set_option autoImplicit false

inductive FailureKind where
  | connectionRefused
  | connectionReset
  | connectionAborted
  | timedOut
  | hostUnreachable
  | networkUnreachable
  | invalidArgument
  | addressNotAvailable
  | other
  deriving DecidableEq, Repr

/-- A failure as the system reports it. -/
structure Failure where
  kind : FailureKind
  text : String
  deriving DecidableEq, Repr

inductive Attempt (α : Type) where
  | done (value : α)
  | failed (failure : Failure)
  | expired

namespace Attempt

def map {α β : Type} (f : α → β) : Attempt α → Attempt β
  | done value => done (f value)
  | failed failure => failed failure
  | expired => expired

end Attempt

/-- What one read brings. -/
inductive Reading where
  | chunk (bytes : Bytes)
  | closed
  | failed (failure : Failure)
  | expired

/-- A read and the time since the connection was made. -/
structure Arrival where
  reading : Reading
  elapsed : Duration

structure Connection where
  written : Attempt Unit
  arrivals : List Arrival

structure Call where
  endpoint : Endpoint
  payload : Bytes
  /-- The time for the whole exchange. -/
  totalWait : Duration
  /-- The time that a read may take once there is something to keep. -/
  readIdle : Duration

structure Network where
  connect : Call → Attempt Connection
  datagram : Call → Attempt Bytes

namespace Network

def isMappedV4 (bits : BitVec 128) : Bool := bits >>> 32 = 0xFFFF

def unreachable : Failure := ⟨.networkUnreachable, "Network is unreachable (os error 101)"⟩

def invalidArgument : Failure := ⟨.invalidArgument, "Invalid argument (os error 22)"⟩

def notAvailable : Failure := ⟨.addressNotAvailable, "Cannot assign requested address (os error 99)"⟩

/-- What a machine without any network says to an attempt to reach a location. -/
def absence : Location → Failure
  | ⟨.v4 _, _⟩ => unreachable
  | ⟨.v6 bits, zone⟩ =>
    if isMappedV4 bits then unreachable
    else if Address.needsZone bits && zone = 0 then invalidArgument
    else notAvailable

/-- Nobody can connect to a group. -/
def connectAbsence : Location → Failure
  | ⟨.v6 bits, zone⟩ => if Address.isMulticast bits then unreachable else absence ⟨.v6 bits, zone⟩
  | location => absence location

/-- A machine without any network. -/
def unplugged : Network where
  connect call := .failed (connectAbsence call.endpoint.location)
  datagram call := .failed (absence call.endpoint.location)

end Network
end ServiceProbe
