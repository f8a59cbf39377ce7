import ServiceProbe.Proofs.Discovery.Sweep

/-! # Rounds of checks

The hosts of a round are checked side by side, as many at a time as there are permits. A check with a
permit pings its host and then starts all its attempts to connect at once, which are completed in any
order; it ends when one of them is accepted or none is left. Each of these is one step, and the steps
of different checks may come in any order. -/

namespace ServiceProbe.Discovery
set_option autoImplicit false

/-- What the checks meet, each at the place of its host. -/
structure Setting where
  network : Nat → Network
  ping : Nat → Address → Bool

/-- How far a check has come. -/
inductive Phase where
  | waiting
  | pinging
  /-- The attempts that are still out, and those that were completed, in this order. -/
  | sweeping (out joined : List (Attempt Unit))
  | ended

namespace Phase

def isUnderway : Phase → Bool
  | pinging | sweeping .. => true
  | waiting | ended => false

end Phase

def isAccepted : Attempt Unit → Bool
  | .done _ => true
  | _ => false

/-- Whether a sweep has nothing more to wait for. -/
def isSwept (out joined : List (Attempt Unit)) : Bool := joined.any isAccepted || out.isEmpty

theorem isSwept_iff {out joined : List (Attempt Unit)} :
    isSwept out joined = true ↔ .done () ∈ joined ∨ out = [] := by
  have hAccepted : ∀ a : Attempt Unit, isAccepted a = true ↔ a = .done () := by
    intro a
    cases a <;> simp [isAccepted]
  rw [isSwept, Bool.or_eq_true, List.any_eq_true, List.isEmpty_iff]
  simp only [hAccepted, exists_eq_right]

structure Round where
  entries : List (Address × Phase)
  /-- The checks that have ended, in the order of their ends. -/
  checks : List Check

namespace Round

def start (hosts : List Address) : Round := ⟨hosts.map (·, .waiting), []⟩

def setPhase (r : Round) (place : Nat) (host : Address) (phase : Phase) : Round :=
  { r with entries := r.entries.set place (host, phase) }

def close (r : Round) (place : Nat) (host : Address) (outcome : Except Failure Bool) : Round :=
  ⟨r.entries.set place (host, .ended), r.checks ++ [⟨place, host, outcome⟩]⟩

def underway (r : Round) : Nat := r.entries.countP fun entry => entry.2.isUnderway

/-- A step of the check at a place. Of the attempts that are out, the choice says which is completed
next. -/
def step (d : Discovery) (around : Setting) (r : Round) (place choice : Nat) : Round :=
  match r.entries[place]? with
  | none | some (_, .ended) => r
  | some (host, .waiting) =>
    if r.underway < d.concurrency then r.setPhase place host .pinging else r
  | some (host, .pinging) =>
    if d.icmp && around.ping place host then r.close place host (verdict true [])
    else r.setPhase place host (.sweeping (d.attempts (around.network place) host) [])
  | some (host, .sweeping out joined) =>
    if isSwept out joined then r.close place host (verdict false joined)
    else
      match out[choice]? with
      | none => r
      | some a => r.setPhase place host (.sweeping (out.eraseIdx choice) (joined ++ [a]))

def run (d : Discovery) (around : Setting) (r : Round) (schedule : List (Nat × Nat)) : Round :=
  schedule.foldl (fun r (place, choice) => r.step d around place choice) r

def Finished (r : Round) : Prop := ∀ entry ∈ r.entries, entry.2 = .ended

end Round
end ServiceProbe.Discovery
