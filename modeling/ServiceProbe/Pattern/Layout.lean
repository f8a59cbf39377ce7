import ServiceProbe.Pattern.Expr

/-! # Layouts

The layout of an expression says which states stand for it, in the order in which they are laid
down, and how much room they take. A pattern is laid out twice, to be read forwards and to be read
backwards: rows stand in the order of reading, and only the forward layout marks its groups. A
state takes 32 bytes, each range in a table of ranges 8 and each way out of a fork 4. -/

namespace ServiceProbe.Pattern
set_option autoImplicit false
open ServiceProbe.Unicode

inductive Direction where
  | forward
  | backward
  deriving DecidableEq

/-- Rows of bytes, where neighbours that begin alike share their beginning: a range, what may
follow it, and the other rows. -/
inductive ByteTree where
  | leaf
  | branch (range : ByteRange) (below others : ByteTree)
  deriving DecidableEq

namespace ByteTree

/-- Adds a row behind all others. -/
def insert : ByteRow → ByteTree → ByteTree
  | [], tree => tree
  | range :: row, leaf => branch range (insert row leaf) leaf
  | range :: row, branch first below others =>
    if others = leaf ∧ first = range then branch first (insert row below) others
    else branch first below (insert (range :: row) others)

def ofRows (rows : List ByteRow) : ByteTree := rows.foldl (fun tree row => tree.insert row) leaf

end ByteTree

inductive Layout where
  /-- States that do not depend on where they stand. -/
  | states (count room : Nat)
  /-- One character, read from its first byte on. -/
  | tree (rows : ByteTree)
  /-- One character, read from its last byte on. -/
  | rows (rows : List ByteRow)
  | both (first second : Layout)
  | times (count : Nat) (body : Layout)

namespace Layout

instance : Append Layout := ⟨both⟩

/-- One state. -/
def state : Layout := states 1 32

/-- One state with so many ways out. -/
def fork (ways : Nat) : Layout := states 1 (32 + 4 * ways)

/-- A table of ranges and the state behind it. -/
def table (ranges : Nat) : Layout := states 2 (64 + 8 * ranges)

/-- Alternatives, with their fork and the state in which they meet behind the second. -/
def options : List Layout → Layout
  | [] => state
  | [only] => only
  | first :: second :: others =>
    first ++ second ++ fork (others.length + 2) ++ state ++ others.foldr both (states 0 0)

/-- The words that begin with each byte, without it. -/
def byFirst (words : List Bytes) : List (List Bytes) :=
  (words.filterMap List.head?).eraseDups.map fun b =>
    words.filterMap fun word => if word.head? = some b then some (word.drop 1) else none

/-- The words between those that end here. Several that end before all others are one. -/
def pieces (words : List Bytes) : List (List Bytes) :=
  (words.dropWhile List.isEmpty).splitOnP List.isEmpty

/-- The number of places among the words where a word ends. -/
def endCount (words : List Bytes) : Nat :=
  (pieces words).length - 1 + if words.head?.any List.isEmpty then 1 else 0

/-- A state with so many ranges, one of which needs no table. -/
def branches (ranges : Nat) : Layout := states 1 (if ranges = 1 then 32 else 32 + 8 * ranges)

/-- The tree of some words, as deep as the longest of them. A node stands for the words that are
left after a common beginning. Each piece of them branches by its first bytes, and each piece and
each end is a way out of the node's fork. -/
def words : Nat → List Bytes → Layout
  | 0, _ => states 0 0
  | depth + 1, ws =>
    let tables := ((pieces ws).map byFirst).filter fun subtrees => !subtrees.isEmpty
    let longer := fun subtree : List Bytes => subtree.any fun word => !word.isEmpty
    let table := fun subtrees : List (List Bytes) =>
      (subtrees.filter longer).foldr (fun subtree rest => words depth subtree ++ rest)
        (branches subtrees.length)
    tables.foldr (fun subtrees rest => table subtrees ++ rest) (fork (tables.length + endCount ws))

/-- The words of the alternatives, if each of them is a word. -/
def words? : Expr → Option (List Bytes)
  | .alt a b => (Expr.alt a b).options.mapM Expr.literal?
  | _ => none

/-- An expression whose alternatives have the given layouts. Words share what they begin with in
the order of reading. -/
def whole (direction : Direction) (e : Expr) (alternatives : List Layout) : Layout :=
  match words? e with
  | none => options alternatives
  | some ws =>
    let ws := if direction = .forward then ws else ws.map List.reverse
    state ++ words (ws.foldl (fun n w => max n w.length) 0) ws

def group (direction : Direction) (body : Layout) : Layout :=
  if direction = .forward then state ++ body ++ state else body

/-- The layout of one character of a set. -/
def character (direction : Direction) (set : CodeSet) : Layout :=
  if List.all set fun range => range.2 ≤ 0x7F then table set.length
  else if direction = .forward then tree (.ofRows (byteRows set))
  else rows (byteRows set)

/-- The layout of a repetition. Rounds that may match nothing are optional as a whole. -/
def repetition (body : Layout) (consumes : Bool) (least : Nat) : Option Nat → Layout
  | none =>
    if least = 0 then
      if consumes then fork 2 ++ body else body ++ fork 2 ++ fork 2 ++ state
    else times least body ++ fork 2
  | some most =>
    if least = 0 ∧ most = 1 then fork 2 ++ body ++ state
    else if least = most then times least body
    else (if least = 0 then state else times least body) ++ state ++
      times (most - least) (fork 2 ++ body)

/-- The layouts of the alternatives of an expression. -/
def ofOptions (direction : Direction) : Expr → List Layout
  | .empty | .look _ => [state]
  | .literal bs => [times bs.length state]
  | .byte set => [table set.runCount]
  | .char set => [character direction set]
  | .seq a b =>
    let first := whole direction a (ofOptions direction a)
    let second := whole direction b (ofOptions direction b)
    [if direction = .forward then first ++ second else second ++ first]
  | .alt a b => whole direction a (ofOptions direction a) :: ofOptions direction b
  | .group _ e => [group direction (whole direction e (ofOptions direction e))]
  | .many e least most _ =>
    [repetition (whole direction e (ofOptions direction e)) e.consumes least most]

def ofExpr (direction : Direction) (e : Expr) : Layout := whole direction e (ofOptions direction e)

/-- Whether every match begins at the start of the text, or, read backwards, at its end. -/
def isAnchored (direction : Direction) : Expr → Bool
  | .look assertion => assertion == if direction = .forward then .textStart else .textEnd
  | .seq a b =>
    if direction = .forward then isAnchored direction a || (a.onlyEmpty && isAnchored direction b)
    else isAnchored direction b || (b.onlyEmpty && isAnchored direction a)
  | .alt a b => isAnchored direction a && isAnchored direction b
  | .group _ e => isAnchored direction e
  | .many e least _ _ => 0 < least && isAnchored direction e
  | _ => false

/-- The way in from any place of the text, or from its edge alone. -/
def entry (direction : Direction) (e : Expr) : Layout :=
  if isAnchored direction e then state else table 1 ++ fork 2

/-- The layout of a whole pattern, with the match itself as a group. -/
def ofPattern (direction : Direction) (e : Expr) : Layout :=
  entry direction e ++ group direction (ofExpr direction e) ++ state

end Layout
end ServiceProbe.Pattern
