import ServiceProbe.Pattern.Layout
import Std.Data.HashMap

/-! # The room of a pattern

A pattern may take ten mebibytes in each direction. States are counted as they are laid down, and
the first that has no room left refuses the pattern. Within one class, nodes that lead to the same
places are laid down once; they are found again through a table in which a later node takes the
place of an earlier one with the same hash. -/

namespace ServiceProbe.Pattern
set_option autoImplicit false

/-- The room a compiled pattern may take, in bytes. -/
def roomLimit : Nat := 10 * 1024 * 1024

/-- How many states there are and how much room they take. -/
structure Tally where
  states : Nat
  room : Nat
  deriving DecidableEq

namespace Tally

def zero : Tally := ⟨0, 0⟩

def add (t : Tally) (states room : Nat) : Option Tally :=
  if t.room + room ≤ roomLimit then some ⟨t.states + states, t.room + room⟩ else none

end Tally

/-- A range of bytes and the state that it is joined to. -/
structure Join where
  range : ByteRange
  state : Nat
  deriving DecidableEq

/-- A node by its joins. -/
abbrev Node := List Join

/-- The states of nodes by their places in a table of limited size. -/
abbrev Seen := Std.HashMap Nat (Node × Nat)

def hashWith (h : UInt64) (n : Nat) : UInt64 := (h ^^^ UInt64.ofNat n) * 1099511628211

def hashStart : UInt64 := 14695981039346656037

/-- The place in a table of `size` places for a list of numbers. -/
def tablePlace (size : Nat) (numbers : List Nat) : Nat :=
  (numbers.foldl hashWith hashStart).toNat % size

/-- The tally with the nodes of the current class. -/
structure Nodes where
  tally : Tally
  seen : Seen

namespace Nodes

/-- The state of a node, which is laid down unless the table still has it. -/
def find (place : Nat) (node : Node) (room : Nat) (nodes : Nodes) : Option (Nat × Nodes) :=
  match (nodes.seen[place]?).filter (·.1 == node) with
  | some (_, state) => some (state, nodes)
  | none => do
    let state := nodes.tally.states
    let tally ← nodes.tally.add 1 room
    return (state, ⟨tally, nodes.seen.insert place (node, state)⟩)

/-- The state of a node that is read forwards: a table of its ranges. -/
def findForward (node : Node) (nodes : Nodes) : Option (Nat × Nodes) :=
  let numbers := node.flatMap fun join => [join.range.1, join.range.2, join.state]
  nodes.find (tablePlace 10000 numbers) node (32 + 8 * node.length)

/-- The joins of a tree whose rows end in the state `last`, from the first to the last. -/
def joins (last : Nat) : ByteTree → Nodes → Option (Node × Nodes)
  | .leaf, nodes => some ([], nodes)
  | .branch range below others, nodes => do
    let (node, nodes) ← joins last below nodes
    let (state, nodes) ← if below = .leaf then some (last, nodes) else nodes.findForward node
    let (rest, nodes) ← joins last others nodes
    return (⟨range, state⟩ :: rest, nodes)

/-- Lays down a row that is read from its last range on, after what joins it to `state`. -/
def row (state : Nat) : ByteRow → Nodes → Option Nodes
  | [], nodes => some nodes
  | range :: rest, nodes => do
    let numbers := [state, range.1, range.2]
    let (state, nodes) ← nodes.find (tablePlace 1000 numbers) [⟨range, state⟩] 32
    row state rest nodes

def rows (state : Nat) (rs : List ByteRow) (nodes : Nodes) : Option Nodes :=
  rs.foldlM (fun nodes r => nodes.row state r) nodes

end Nodes

namespace Tally

/-- Lays down one character that is read from its first byte on, with the state behind it first. -/
def addTree (tree : ByteTree) (t : Tally) : Option Tally := do
  let before ← t.add 1 32
  let (node, nodes) ← Nodes.joins t.states tree ⟨before, ∅⟩
  let (_, nodes) ← nodes.findForward node
  return nodes.tally

/-- Lays down one character that is read from its last byte on: a fork with a way for each row, and
the state behind it. -/
def addRows (rs : List ByteRow) (t : Tally) : Option Tally := do
  let before ← t.add 2 (64 + 4 * rs.length)
  let nodes ← Nodes.rows (t.states + 1) rs ⟨before, ∅⟩
  return nodes.tally

/-- Does a step so many times. -/
def iterate (step : Tally → Option Tally) : Nat → Tally → Option Tally
  | 0, t => some t
  | n + 1, t =>
    match step t with
    | none => none
    | some next => iterate step n next

/-- Lays down a layout, as far as there is room. -/
def addLayout : Layout → Tally → Option Tally
  | .states count room, t => t.add count room
  | .tree tree, t => t.addTree tree
  | .rows rs, t => t.addRows rs
  | .both first second, t => (addLayout first t).bind (addLayout second)
  | .times count body, t => iterate (addLayout body) count t

end Tally

/-- There is room for the layout. -/
def Layout.fits (layout : Layout) : Bool := (Tally.zero.addLayout layout).isSome

/-- So many words and more are searched for without states. -/
def wordListSize : Nat := 3000

def Expr.isWordList (e : Expr) : Bool :=
  (Layout.words? e).any fun words => wordListSize ≤ words.length

/-- There is room for the expression in both directions. -/
def Expr.fits (e : Expr) : Bool :=
  e.isWordList || ((Layout.ofPattern .forward e).fits && (Layout.ofPattern .backward e).fits)

end ServiceProbe.Pattern
