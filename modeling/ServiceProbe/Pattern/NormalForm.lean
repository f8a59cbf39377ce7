import ServiceProbe.Pattern.Expr
import ServiceProbe.Text.Utf8

/-! # Normal forms of expressions

How much room a pattern takes depends on how it is written down, so expressions are built in one
form only: literals that stand in a row are one literal, a class with one member is a literal, rows
within rows and alternatives within alternatives are spread out, alternatives that are all one
character are one class, and a beginning that all alternatives share stands before them. -/

namespace ServiceProbe.Pattern
set_option autoImplicit false
open ServiceProbe.Unicode

namespace Expr

def ofBytes : Bytes → Expr
  | [] => empty
  | bs => literal bs

def ofByteSet (s : ByteSet) : Expr :=
  match s.members with
  | [n] => literal [UInt8.ofNat n]
  | _ => byte s

/-- The characters of a set. Surrogates are none. -/
def ofCodeSet (s : CodeSet) : Expr :=
  match s.inter .all with
  | [] => never
  | [(low, high)] =>
    if low = high then literal ((utf8Codes low).map UInt8.ofNat) else char [(low, high)]
  | ranges => char ranges

/-- An expression before another in a row. -/
def before : Expr → Expr → Expr
  | empty, e => e
  | seq a b, e => a.before (b.before e)
  | literal bs, literal cs => literal (bs ++ cs)
  | literal bs, seq (literal cs) e => seq (literal (bs ++ cs)) e
  | e, empty => e
  | e, f => seq e f

def seqs (es : List Expr) : Expr := es.foldr before empty

def alts : List Expr → Expr
  | [] => never
  | [e] => e
  | e :: rest => alt e (alts rest)

/-- A repetition in its simplest form. What matches nothing but the empty run is tried once at
most. -/
def repeated (e : Expr) (least : Nat) (most : Option Nat) (greedy : Bool) : Expr :=
  let fewest := if e.onlyEmpty then Nat.min least 1 else least
  let limit := if e.onlyEmpty then some (Nat.min (most.getD 1) 1) else most
  if limit = some 0 then empty
  else if fewest = 1 ∧ limit = some 1 then e
  else many e fewest limit greedy

/-- The one character that a literal consists of. -/
def oneChar? : Expr → Option Nat
  | literal bs =>
    match Text.decode? bs with
    | some [c] => some c.toNat
    | _ => none
  | _ => none

def oneByte? : Expr → Option ByteSet
  | literal [b] => some (.single b)
  | _ => none

def isAsciiSet (s : CodeSet) : Bool := List.all s fun r => r.2 ≤ 0x7F

/-- A class as a set of characters. -/
def codeSet? : Expr → Option CodeSet
  | char s => some s
  | byte s => if s.isAscii then some (CodeSet.normal (s.members.map fun n => (n, n))) else none
  | _ => none

/-- A class as a set of bytes. -/
def byteSet? : Expr → Option ByteSet
  | byte s => some s
  | char s => if isAsciiSet s then some (.ofRanges s) else none
  | _ => none

/-- The one class that some alternatives amount to. -/
def oneClass? (es : List Expr) : Option Expr :=
  ((es.mapM oneChar?).map fun codes => ofCodeSet (CodeSet.normal (codes.map fun n => (n, n)))).or <|
  ((es.mapM oneByte?).map fun sets => ofByteSet (sets.foldl .union .empty)).or <|
  ((es.mapM codeSet?).map fun sets => ofCodeSet (CodeSet.normal sets.flatten)).or <|
  (es.mapM byteSet?).map fun sets => ofByteSet (sets.foldl .union .empty)

/-- The parts of a row; other expressions are none. -/
def row? : Expr → Option (List Expr)
  | seq a b => some (a :: b.parts)
  | _ => none

def sharedPrefix : List Expr → List Expr → List Expr
  | a :: as, b :: bs => if a = b then a :: sharedPrefix as bs else []
  | _, _ => []

/-- The parts with which all alternatives begin, and what remains of each. -/
def splitShared? (es : List Expr) : Option (List Expr × List Expr) :=
  match es.mapM row? with
  | none | some [] => none
  | some (first :: others) =>
    let shared := others.foldl sharedPrefix first
    if shared.isEmpty then none
    else some (shared, (first :: others).map fun row => seqs (row.drop shared.length))

/-- Alternatives, of which what remains after a shared beginning is smaller each time. -/
def choiceWithin : Nat → List Expr → Expr
  | 0, es => alts es
  | fuel + 1, es =>
    match es.flatMap options with
    | [] => never
    | [e] => e
    | es =>
      match oneClass? es, splitShared? es with
      | some e, _ => e
      | none, some (shared, others) => seqs (shared ++ [choiceWithin fuel others])
      | none, none => alts es

def choice (es : List Expr) : Expr := choiceWithin (es.foldl (fun n e => n + e.size) 1) es

end Expr
end ServiceProbe.Pattern
