import ServiceProbe.Duration

/-! # Options of scans

The presets trade speed for certainty: the fast one keeps to common probes and short waits, the
accurate one sends every probe and waits longer. -/

namespace ServiceProbe
set_option autoImplicit false

structure ScanOptions where
  /-- Probes rarer than this are left out. -/
  rarityThreshold : Option UInt8 := none
  honorExclude : Bool := true
  totalWait : Duration := Duration.ofMillis 5000
  tcpWrapped : Duration := Duration.ofMillis 2000
  /-- A bound on every wait, those that probes declare included. -/
  maxWait : Option Duration := none
  maxConcurrency : UInt64 := 256
  /-- Scans that may start in a second. -/
  rateLimit : Option UInt32 := none
  deriving DecidableEq, Repr

namespace ScanOptions

def balanced : ScanOptions := {}

def fast : ScanOptions where
  rarityThreshold := some 3
  totalWait := Duration.ofMillis 2000
  tcpWrapped := Duration.ofMillis 1000
  maxWait := some (Duration.ofMillis 3000)
  maxConcurrency := 1024

def accurate : ScanOptions where
  totalWait := Duration.ofMillis 8000
  tcpWrapped := Duration.ofMillis 3000
  maxConcurrency := 64

end ScanOptions
end ServiceProbe
