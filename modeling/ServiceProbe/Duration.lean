/-! # Durations

A length of time in whole seconds and the nanoseconds of one second that is not full. -/

namespace ServiceProbe
set_option autoImplicit false

structure Duration where
  secs : UInt64
  nanos : Fin 1000000000
  deriving DecidableEq, Repr

namespace Duration

def zero : Duration := ⟨0, 0⟩

def toNanos (d : Duration) : Nat := d.secs.toNat * 1000000000 + d.nanos.val

/-- The duration of that many nanoseconds, if its seconds fit a word. -/
def ofNanos? (n : Nat) : Option Duration :=
  if n / 1000000000 < UInt64.size then
    some ⟨UInt64.ofNat (n / 1000000000), Fin.ofNat 1000000000 (n % 1000000000)⟩
  else none

def ofMillis (ms : UInt64) : Duration :=
  ⟨ms / 1000, Fin.ofNat 1000000000 ((ms.toNat % 1000) * 1000000)⟩

/-- Whole milliseconds. -/
def toMillis (d : Duration) : Nat := d.secs.toNat * 1000 + d.nanos.val / 1000000

def min (a b : Duration) : Duration := if a.toNanos ≤ b.toNanos then a else b

end Duration
end ServiceProbe
