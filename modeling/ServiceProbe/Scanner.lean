import ServiceProbe.Exchange
import ServiceProbe.Registry
import ServiceProbe.ScanOptions
import ServiceProbe.Target

/-! # Scanners

A scanner walks the probes that apply to a port and sends each until a rule says what the service
is. A failed exchange, or a reply that no rule matches, only leads to the next probe. -/

namespace ServiceProbe
set_option autoImplicit false

structure Scanner where
  registry : Registry
  options : ScanOptions

namespace Scanner

/-- A probe that declares no rarity is never too rare. -/
def admits (threshold : Option UInt8) (p : Probe) : Bool :=
  match threshold, p.rarity with
  | some limit, some rarity => rarity ≤ limit.toNat
  | _, _ => true

/-- The probes that a scan of the port tries, in their order. -/
def candidates (s : Scanner) (port : Port) : List Probe :=
  ((s.registry.dispatch port).filterMap s.registry.probe?).filter (admits s.options.rarityThreshold)

/-- The finger of the first rule that matches a reply: of the probe's own rules, then of the rules of
its fallback probes in turn. -/
def match? (s : Scanner) (p : Probe) (reply : Bytes) : Option Finger :=
  (p.match? reply).or
    ((p.fallback.filterMap s.registry.probe?).findSome? fun fallback => fallback.match? reply)

def request (p : Probe) (target : Target) : Request :=
  ⟨p.protocol, target.address, p.payload, p.totalWait, p.tcpWrapped⟩

def matchReply (s : Scanner) (p : Probe) : Reply → Option Finger
  | .ok reply => s.match? p reply
  | .error _ => none

/-- Sends the probes of a list until one brings a finger. -/
def walk (s : Scanner) (target : Target) : List Probe → Dialogue
  | [] => .done none
  | p :: rest => .send (request p target) fun reply =>
    match s.matchReply p reply with
    | some finger => .done (some finger)
    | none => walk s target rest

/-- Whether the port is one that no scan touches. -/
def refuses (s : Scanner) (port : Port) : Bool :=
  s.options.honorExclude && s.registry.isExcluded port

def scan (s : Scanner) (target : Target) : Dialogue :=
  if s.refuses target.port then .done none else s.walk target (s.candidates target.port)

end Scanner
end ServiceProbe
