import ServiceProbe.Pattern.Expr

/-! # Programs

A program is a graph of states. A fork prefers its first way, a mark remembers the place in the
trail of the search, and the order of the ways is the order of preference among matches. -/

namespace ServiceProbe.Pattern
set_option autoImplicit false
open ServiceProbe.Unicode

inductive State where
  | byte (set : ByteSet) (next : Nat)
  | char (set : CodeTable) (next : Nat)
  | look (assertion : Assertion) (next : Nat)
  | fork (preferred other : Nat)
  | mark (slot : Nat) (next : Nat)
  | accept
  | fail
  deriving DecidableEq

structure Program where
  states : Array State
  start : Nat

/-- States are added at the end; the address of the new state is the answer. -/
abbrev Assembly := StateM (Array State)

namespace Assembly

def add (s : State) : Assembly Nat := fun states => (states.size, states.push s)

def put (address : Nat) (s : State) : Assembly Unit := fun states =>
  ((), states.setIfInBounds address s)

def fork (greedy : Bool) (body exit : Nat) : State :=
  if greedy then .fork body exit else .fork exit body

/-- Builds `n` copies of a part in front of `next`. -/
def copies (part : Nat → Assembly Nat) : Nat → Nat → Assembly Nat
  | 0, next => pure next
  | n + 1, next => do copies part n (← part next)

/-- Builds `n` optional copies of a part, each inside the one before, that all leave to `exit`. -/
def options (part : Nat → Assembly Nat) (greedy : Bool) (exit : Nat) : Nat → Nat → Assembly Nat
  | 0, next => pure next
  | n + 1, next => do
    let body ← part next
    options part greedy exit n (← add (fork greedy body exit))

/-- Builds a part that is repeated at least once. -/
def loop (part : Nat → Assembly Nat) (greedy : Bool) (exit : Nat) : Assembly Nat := do
  let again ← add .fail
  let body ← part again
  put again (fork greedy body exit)
  pure body

/-- Builds the states of an expression that continue at `next`, and gives the first of them.
A repetition whose body may match nothing is an optional loop, so that a round that matches nothing
leaves the loop instead of closing it. -/
def emit : Expr → Nat → Assembly Nat
  | .empty, next => pure next
  | .literal bs, next => bs.reverse.foldlM (fun next b => add (.byte (.single b) next)) next
  | .byte set, next => add (.byte set next)
  | .char set, next => add (.char (.ofSet set) next)
  | .look assertion, next => add (.look assertion next)
  | .seq a b, next => do emit a (← emit b next)
  | .alt a b, next => do
    let preferred ← emit a next
    let other ← emit b next
    add (.fork preferred other)
  | .group index e, next => do
    let body ← emit e (← add (.mark (2 * index + 1) next))
    add (.mark (2 * index) body)
  | .many e 0 none greedy, next =>
    if e.consumes then do
      let round ← add .fail
      let body ← emit e round
      put round (fork greedy body next)
      pure round
    else do
      let body ← loop (emit e) greedy next
      add (fork greedy body next)
  | .many e (least + 1) none greedy, next => do
    copies (emit e) least (← loop (emit e) greedy next)
  | .many e least (some most) greedy, next => do
    copies (emit e) least (← options (emit e) greedy next (most - least) next)

end Assembly

/-- The program of an expression, with the whole match as its group zero. -/
def Program.ofExpr (e : Expr) : Program :=
  let build : Assembly Nat := do Assembly.emit (.group 0 e) (← Assembly.add .accept)
  let (start, states) := build.run #[]
  ⟨states, start⟩

end ServiceProbe.Pattern
