import ServiceProbe.Network

/-! # Discovery of hosts

A host is up if it answers a ping or accepts a connection to one of a few ports. A refusal speaks
of the host; a failure on this side says nothing, and a host whose check fails so is kept. -/

namespace ServiceProbe
set_option autoImplicit false

structure Discovery where
  ports : List Port := [22, 23, 80, 139, 443, 445, 3389]
  connectTimeout : Duration := Duration.ofMillis 2000
  icmp : Bool := true
  /-- How many hosts are checked at a time. -/
  concurrency : Nat := 16
  deriving DecidableEq, Repr

namespace Discovery

def withConcurrency (d : Discovery) (hosts : Nat) : Discovery :=
  { d with concurrency := max 1 hosts }

/-- The failures that describe the other side. -/
def speaksOfHost : FailureKind → Bool
  | .connectionRefused | .connectionReset | .connectionAborted | .timedOut | .hostUnreachable
  | .networkUnreachable => true
  | _ => false

/-- What the attempts to connect say, in the order of their completion. The first connection settles
it, and of several failures on this side the last one is kept. -/
def sweep (failure : Option Failure) : List (Attempt Unit) → Except Failure Bool
  | [] =>
    match failure with
    | none => .ok false
    | some f => .error f
  | .done _ :: _ => .ok true
  | .expired :: rest => sweep failure rest
  | .failed f :: rest => sweep (if speaksOfHost f.kind then failure else some f) rest

/-- Whether a host is up, by what its ping and its attempts say. -/
def verdict (pinged : Bool) (attempts : List (Attempt Unit)) : Except Failure Bool :=
  if pinged then .ok true else sweep none attempts

def attempts (d : Discovery) (network : Network) (host : Address) : List (Attempt Unit) :=
  d.ports.map fun port =>
    (network.connect ⟨⟨⟨host, 0⟩, port⟩, [], d.connectTimeout, d.connectTimeout⟩).map fun _ => ()

def isAlive (d : Discovery) (network : Network) (ping : Address → Bool) (host : Address) :
    Except Failure Bool :=
  verdict (d.icmp && ping host) (d.attempts network host)

/-- A check that has been completed: the place of the host, the host and what came of it. -/
structure Check where
  place : Nat
  host : Address
  outcome : Except Failure Bool

def Check.keeps (c : Check) : Bool :=
  match c.outcome with
  | .ok alive => alive
  | .error _ => true

/-- The hosts to keep, in the order of their places, whatever the order of the checks. -/
def kept (checks : List Check) : List Address :=
  ((checks.filter Check.keeps).mergeSort fun a b => a.place ≤ b.place).map Check.host

def filterAlive (d : Discovery) (network : Network) (ping : Address → Bool)
    (hosts : List Address) : List Address :=
  kept (hosts.zipIdx.map fun (host, place) => ⟨place, host, d.isAlive network ping host⟩)

end Discovery
end ServiceProbe
