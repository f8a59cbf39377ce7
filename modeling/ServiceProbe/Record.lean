import ServiceProbe.Duration
import ServiceProbe.Finger
import ServiceProbe.Target

/-! # Jobs and records

A job is a list of targets to scan, and a record is what came of one of them. -/

namespace ServiceProbe
set_option autoImplicit false

structure Job where
  id : BitVec 128
  targets : List Target
  /-- The time since the epoch. -/
  createdAt : Duration
  deriving DecidableEq

structure Record where
  target : Target
  finger : Option Finger
  elapsed : Duration
  deriving DecidableEq, Repr

namespace Record

def isIdentified (r : Record) : Bool := r.finger.isSome

def countIdentified (records : List Record) : Nat := records.countP isIdentified

end Record
end ServiceProbe
