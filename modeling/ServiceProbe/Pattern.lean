import ServiceProbe.Pattern.Notation
import ServiceProbe.Pattern.Room
import ServiceProbe.Pattern.Search

/-! # Patterns

A pattern is compiled once and then searched for in replies. Its text and its two flags decide
everything about it. -/

namespace ServiceProbe
set_option autoImplicit false

structure PatternFlags where
  ignoreCase : Bool
  dotMatchesNewLine : Bool
  deriving DecidableEq

structure Pattern where
  text : Text
  flags : PatternFlags
  program : Pattern.Program

/-- Why there is no pattern with a text. -/
inductive PatternFault where
  | malformed
  | tooLarge
  deriving DecidableEq, Repr

namespace PatternFault

/-- The first line of what is said about a text that is no pattern. -/
def message : PatternFault → String
  | malformed => "regex parse error:"
  | tooLarge => "Compiled regex exceeds size limit of " ++ toString Pattern.roomLimit ++ " bytes."

end PatternFault

namespace Pattern

def parsed? (t : Text) (flags : PatternFlags) : Option Expr :=
  let cursor : Cursor := ⟨t, Switches.initial flags.ignoreCase flags.dotMatchesNewLine, 0, []⟩
  (Reader.whole.run cursor).map (·.1)

def expr? (t : Text) (flags : PatternFlags) : Option Expr := (parsed? t flags).filter Expr.fits

/-- Refuses what is no pattern, and patterns that take too much room. -/
def compile? (t : Text) (flags : PatternFlags) : Option Pattern :=
  (expr? t flags).map fun e => ⟨t, flags, Program.ofExpr e⟩

/-- Why a text that is refused is refused. -/
def fault (t : Text) (flags : PatternFlags) : PatternFault :=
  if (parsed? t flags).isSome then .tooLarge else .malformed

/-- The bytes of a reply and the trail of the match in it. -/
structure Captures where
  input : Bytes
  trail : Trail

/-- What a group matched last, if it took part in the match. Group zero is the whole match. -/
def Captures.group? (c : Captures) (n : Nat) : Option Bytes :=
  match c.trail.lookup (2 * n), c.trail.lookup (2 * n + 1) with
  | some first, some last => some ((c.input.drop first).take (last - first))
  | _, _ => none

def captures? (p : Pattern) (input : Bytes) : Option Captures :=
  (search p.program input).map fun trail => ⟨input, trail⟩

def isMatch (p : Pattern) (input : Bytes) : Bool := (p.captures? input).isSome

end Pattern
end ServiceProbe
