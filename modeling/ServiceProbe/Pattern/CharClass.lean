import ServiceProbe.Pattern.NormalForm
import ServiceProbe.Unicode.Fold

/-! # Classes of characters

In a pattern over bytes a class is a set of bytes; where a pattern asks for Unicode it is a set of
characters, and matches their UTF-8 bytes. -/

namespace ServiceProbe.Pattern
set_option autoImplicit false
open ServiceProbe.Unicode

inductive CharClass where
  | bytes (set : ByteSet)
  | codes (set : CodeSet)

namespace CharClass

def empty (wide : Bool) : CharClass := if wide then codes [] else bytes .empty

def combine (onBytes : ByteSet → ByteSet → ByteSet) (onCodes : CodeSet → CodeSet → CodeSet) :
    CharClass → CharClass → CharClass
  | bytes s, bytes t => bytes (onBytes s t)
  | codes s, codes t => codes (onCodes s t)
  | s, _ => s

def union : CharClass → CharClass → CharClass := combine .union .union

def inter : CharClass → CharClass → CharClass := combine .inter .inter

def diff : CharClass → CharClass → CharClass := combine .diff .diff

def symmDiff : CharClass → CharClass → CharClass := combine .symmDiff .symmDiff

def compl : CharClass → CharClass
  | bytes s => bytes s.compl
  | codes s => codes s.compl

def foldCase : CharClass → CharClass
  | bytes s => bytes s.foldCase
  | codes s => codes s.foldCase

def foldIf (fold : Bool) (c : CharClass) : CharClass := if fold then c.foldCase else c

def complIf (negated : Bool) (c : CharClass) : CharClass := if negated then c.compl else c

def ofRanges (wide : Bool) (rs : List (Nat × Nat)) : CharClass :=
  if wide then codes (CodeSet.normal rs) else bytes (.ofRanges rs)

def toExpr : CharClass → Expr
  | bytes s => .ofByteSet s
  | codes s => .ofCodeSet s

end CharClass
end ServiceProbe.Pattern
