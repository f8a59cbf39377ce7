import ServiceProbe.Pattern.ByteForm
import ServiceProbe.Pattern.ByteSet

/-! # Regular expressions over bytes

An expression matches a run of bytes. Its alternatives are ordered, its repetitions prefer more or
fewer rounds, and its groups remember what they matched last. Two or more parts in a row, and two
or more alternatives, are chains that grow to the right. -/

namespace ServiceProbe.Pattern
set_option autoImplicit false
open ServiceProbe.Unicode

/-- How the two sides of a place must compare for an assertion about words. -/
inductive WordEdge where
  | boundary
  | inside
  | start
  | finish
  | startHalf
  | finishHalf
  deriving DecidableEq, Repr

inductive Assertion where
  | textStart
  | textEnd
  | lineStart
  | lineEnd
  /-- Lines that may also end in a carriage return. -/
  | anyLineStart
  | anyLineEnd
  /-- Words of ASCII bytes, or of Unicode characters when `wide`. -/
  | word (edge : WordEdge) (wide : Bool)
  deriving DecidableEq, Repr

inductive Expr where
  | empty
  | literal (bytes : Bytes)
  | byte (set : ByteSet)
  /-- One character of the set, as its UTF-8 bytes. -/
  | char (set : CodeSet)
  | look (assertion : Assertion)
  | seq (first second : Expr)
  | alt (preferred other : Expr)
  | group (index : Nat) (body : Expr)
  | many (body : Expr) (least : Nat) (most : Option Nat) (greedy : Bool)
  deriving DecidableEq

namespace Expr

/-- The expression that matches nothing. -/
def never : Expr := byte .empty

/-- The fewest bytes of a match. There is no such number if some part of the expression can match
nothing at all. -/
def minLength? : Expr → Option Nat
  | empty | look _ => some 0
  | literal bs => some bs.length
  | byte set => if set = .empty then none else some 1
  | char set => set.head?.map fun r => utf8Length r.1
  | seq a b => a.minLength?.bind fun m => b.minLength?.map (m + ·)
  | alt a b => a.minLength?.bind fun m => b.minLength?.map (Nat.min m)
  | group _ e => e.minLength?
  | many e least _ _ => e.minLength?.map (· * least)

/-- No match of the expression is empty. -/
def consumes (e : Expr) : Bool := e.minLength?.any (0 < ·)

/-- Every match of the expression is empty. -/
def onlyEmpty : Expr → Bool
  | empty | look _ => true
  | literal _ | byte _ | char _ => false
  | seq a b | alt a b => a.onlyEmpty && b.onlyEmpty
  | group _ e => e.onlyEmpty
  | many e _ _ _ => e.onlyEmpty

/-- The number of expressions within an expression. -/
def size : Expr → Nat
  | seq a b | alt a b => a.size + b.size + 1
  | group _ e | many e _ _ _ => e.size + 1
  | _ => 1

/-- The parts that stand in a row. -/
def parts : Expr → List Expr
  | seq a b => a :: b.parts
  | e => [e]

/-- The alternatives in order of preference. -/
def options : Expr → List Expr
  | alt a b => a :: b.options
  | e => [e]

def literal? : Expr → Option Bytes
  | literal bs => some bs
  | _ => none

end Expr
end ServiceProbe.Pattern
