import ServiceProbe.Pattern.Bracket
import ServiceProbe.Text.Utf8
import ServiceProbe.Unicode.Letter

/-! # The notation of patterns

A pattern is a list of alternatives, each a run of parts: characters, classes, assertions, groups
and their repetitions. Switches in a group hold to its end, across alternatives. The notation nests
250 levels deep at most. -/

namespace ServiceProbe.Pattern
set_option autoImplicit false
open ServiceProbe.Unicode

/-- An expression with how deep its notation nests. -/
structure Part where
  expr : Expr
  depth : Nat
  /-- Switches stand among the parts, but nothing repeats them. -/
  repeatable : Bool

namespace Part

/-- The parts of an alternative, given with the last one in front. -/
def run : List Part → Part
  | [] => ⟨.empty, 0, true⟩
  | [part] => part
  | parts =>
    ⟨.seqs (parts.reverse.map (·.expr)), (parts.map (·.depth)).foldl max 0 + 1, true⟩

/-- The alternatives of a group, given with the last one in front. -/
def choice : List Part → Part
  | [part] => part
  | parts =>
    ⟨.choice (parts.reverse.map (·.expr)), (parts.map (·.depth)).foldl max 0 + 1, true⟩

def leaf (e : Expr) : Part := ⟨e, 0, true⟩

end Part

namespace Reader

def wideDot (switches : Switches) : CodeSet :=
  if switches.dotMatchesNewLine then .all
  else if switches.anyLineEnd then CodeSet.compl [(0x0A, 0x0A), (0x0D, 0x0D)]
  else CodeSet.compl [(0x0A, 0x0A)]

def byteDot (switches : Switches) : ByteSet :=
  if switches.dotMatchesNewLine then .full
  else if switches.anyLineEnd then (ByteSet.ofRanges [(0x0A, 0x0A), (0x0D, 0x0D)]).compl
  else (ByteSet.range 0x0A 0x0A).compl

def dot (switches : Switches) : Expr :=
  if switches.unicode then .ofCodeSet (wideDot switches) else .ofByteSet (byteDot switches)

def caret (switches : Switches) : Assertion :=
  if !switches.multiLine then .textStart
  else if switches.anyLineEnd then .anyLineStart
  else .lineStart

def dollar (switches : Switches) : Assertion :=
  if !switches.multiLine then .textEnd
  else if switches.anyLineEnd then .anyLineEnd
  else .lineEnd

/-- A character by itself. Case is ignored among ASCII letters, or by simple folding where the
pattern asks for Unicode. -/
def literal (switches : Switches) (c : Char) (isByte : Bool) : Expr :=
  match Symbol.ofLiteral switches.unicode c isByte with
  | .byte b => .literal [b]
  | .char c =>
    if switches.ignoreCase && switches.unicode then
      (CharClass.codes [(c.toNat, c.toNat)]).foldCase.toExpr
    else if switches.ignoreCase && c.isAlpha then .ofByteSet (ByteSet.ofChar c).foldCase
    else .ofBytes (Text.utf8 [c])

def atom (switches : Switches) : Atom → Expr
  | .literal c isByte => literal switches c isByte
  | .look assertion => .look assertion
  | .charClass set => set.toExpr

/-- A lazy sign after a repetition, turned around by the switch for it. -/
def greed : Reader Bool := do
  let lazy ← bumpIf "?"
  return lazy == (← switches).swapGreed

/-- Repeats the last part. -/
def repeatLast (least : Nat) (most : Option Nat) (greedy : Bool) :
    List Part → Reader (List Part)
  | [] => reject
  | part :: parts => do
    guard part.repeatable
    pure (⟨part.expr.repeated least most greedy, part.depth + 1, true⟩ :: parts)

/-- The bounds between braces, the opening one of which has been read. -/
def bounds : Reader (Nat × Option Nat) := do
  skipSpace
  let least? ← count?
  let c ← current
  if c == ',' then
    bumpSpace
    if (← current) == '\x7d' then
      match least? with
      | some least => pure (least, none)
      | none => reject
    else
      match least?, (← count?) with
      | some least, some most => pure (least, some most)
      | _, _ => reject
  else
    match least? with
    | some n => pure (n, some n)
    | none => reject

def counted (parts : List Part) : Reader (List Part) := do
  guard ((parts.head?.map (·.repeatable)).getD false)
  bump
  let (least, most) ← bounds
  guard ((← current) == '\x7d')
  bumpSpace
  let greedy ← greed
  guard (most.all (least ≤ ·))
  repeatLast least most greedy parts

def setSwitch (on : Bool) (switches : Switches) : Char → Option Switches
  | 'i' => some { switches with ignoreCase := on }
  | 'm' => some { switches with multiLine := on }
  | 's' => some { switches with dotMatchesNewLine := on }
  | 'U' => some { switches with swapGreed := on }
  | 'u' => some { switches with unicode := on }
  | 'R' => some { switches with anyLineEnd := on }
  | 'x' => some { switches with verbose := on }
  | _ => none

/-- Seven switches, a hyphen, and what follows them. -/
def switchRoom : Nat := 9

/-- Switches up to a colon or the closing parenthesis. Those after a hyphen are turned off; none
stands twice, and a hyphen is not the last. -/
def switchList : Nat → Text → Bool → Switches → Reader Switches
  | 0, _, _, _ => reject
  | fuel + 1, seen, on, current? => do
    let c ← current
    if c == ':' || c == ')' then
      guard (seen.head? != some '-')
      pure current?
    else
      guard (c ∉ seen)
      bump
      if c == '-' then switchList fuel (c :: seen) false current?
      else
        match setSwitch on current? c with
        | some changed => switchList fuel (c :: seen) on changed
        | none => reject

def isNameStart (c : Char) : Bool := c == '_' || isAlphabetic c

def isNamePart (c : Char) : Bool :=
  c == '_' || c == '.' || c == '[' || c == ']' || isAlphanumeric c

/-- The name of a group, up to and with the closing angle. -/
def groupName : Reader Unit := do
  match Text.cutOn? '>' (← rest) with
  | none => reject
  | some (name, tail) => do
    guard (name.head?.any isNameStart && (name.drop 1).all isNamePart)
    guard (name ∉ (← get).names)
    setRest tail
    modify fun c => { c with names := name :: c.names }

/-- What an opening parenthesis begins. -/
inductive Opening where
  | switches (changed : Switches)
  | plain (changed : Switches)
  | numbered (index : Nat)

def numbered : Reader Opening := do
  let index := (← get).groups + 1
  modify fun c => { c with groups := index }
  pure (.numbered index)

/-- Groups that look around are refused. -/
def isLookAround (t : Text) : Bool :=
  ["?=", "?!", "?<=", "?<!"].any fun lead => lead.toList.isPrefixOf t

def opening : Reader Opening := do
  skipSpace
  guard !(isLookAround (← rest))
  if ← (do if ← bumpIf "?P<" then pure true else bumpIf "?<") then
    let opened ← numbered
    groupName
    pure opened
  else if ← bumpIf "?" then
    let isEmpty := (← peek?) == some ')'
    let changed ← switchList switchRoom [] true (← switches)
    if (← next) == ':' then pure (.plain changed)
    else do
      guard !isEmpty
      pure (.switches changed)
  else numbered

/-- The alternatives up to the end of a group or of the pattern. `done` holds the finished
alternatives and `parts` the parts of the current one, the latest in front. The first number stays
above the length of the rest, as each step passes a character. -/
def alternatives : Nat → List Part → List Part → Reader Part
  | 0, _, _ => reject
  | fuel + 1, done, parts => do
    skipSpace
    let switches ← switches
    match (← peek?) with
    | none | some ')' => pure (Part.choice (Part.run parts :: done))
    | some '|' => do
      bump
      alternatives fuel (Part.run parts :: done) []
    | some '(' => do
      bump
      match (← opening) with
      | .switches changed => do
        setSwitches changed
        alternatives fuel done (⟨.empty, 0, false⟩ :: parts)
      | .plain changed => do
        setSwitches changed
        let inner ← alternatives fuel [] []
        guard ((← next) == ')')
        setSwitches switches
        alternatives fuel done (⟨inner.expr, inner.depth + 1, true⟩ :: parts)
      | .numbered index => do
        let inner ← alternatives fuel [] []
        guard ((← next) == ')')
        setSwitches switches
        alternatives fuel done (⟨.group index inner.expr, inner.depth + 1, true⟩ :: parts)
    | some '[' => do
      bump
      let nested ← bracket (2 * fuel)
      alternatives fuel done (⟨nested.set.toExpr, nested.depth, true⟩ :: parts)
    | some '{' => do alternatives fuel done (← counted parts)
    | some c => do
      bump
      match c with
      | '?' => alternatives fuel done (← repeatLast 0 (some 1) (← greed) parts)
      | '*' => alternatives fuel done (← repeatLast 0 none (← greed) parts)
      | '+' => alternatives fuel done (← repeatLast 1 none (← greed) parts)
      | '.' => alternatives fuel done (Part.leaf (dot switches) :: parts)
      | '^' => alternatives fuel done (Part.leaf (.look (caret switches)) :: parts)
      | '$' => alternatives fuel done (Part.leaf (.look (dollar switches)) :: parts)
      | '\\' => alternatives fuel done (Part.leaf (atom switches (← escape)) :: parts)
      | c => alternatives fuel done (Part.leaf (literal switches c false) :: parts)

def deepest : Nat := 250

/-- The expression of a whole pattern. -/
def whole : Reader Expr := do
  let part ← alternatives ((← rest).length + 2) [] []
  guard (← atEnd)
  guard (part.depth ≤ deepest)
  pure part.expr

end Reader
end ServiceProbe.Pattern
