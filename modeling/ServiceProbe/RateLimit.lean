/-! # Limits on the rate of starts

A limit holds back the starts of scans so that no more than some number happen in a second. A rate
of zero holds nothing back. A limit only delays: a start that does not go ahead at once waits. -/

namespace ServiceProbe
set_option autoImplicit false

structure RateLimit where
  perSecond : UInt32
  deriving DecidableEq, Repr

namespace RateLimit

def isLimited (limit : RateLimit) : Bool := limit.perSecond != 0

/-- The number of starts that need no wait after a second without any. -/
def burst? (limit : RateLimit) : Option Nat :=
  if limit.isLimited then some limit.perSecond.toNat else none

/-- How many of the starts that are asked for at one moment go ahead at once. The others wait. -/
def granted (limit : RateLimit) (asked : Nat) : Nat :=
  match limit.burst? with
  | none => asked
  | some burst => min asked burst

end RateLimit
end ServiceProbe
