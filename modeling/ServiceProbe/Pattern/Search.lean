import ServiceProbe.Pattern.Program
import ServiceProbe.Text.Utf8
import ServiceProbe.Unicode.Word

/-! # Search

All ways through a program are followed at once, one byte after the other. The ways that are alive
stand in a list, the preferred ones in front, and no state is in it twice, so the work for a byte is
bounded by the size of the program. The first place that has a match wins, and at that place the
preferred way. -/

namespace ServiceProbe.Pattern
set_option autoImplicit false

def isWordByte (b : UInt8) : Bool :=
  (0x30 ≤ b && b ≤ 0x39) || (0x41 ≤ b && b ≤ 0x5A) || b == 0x5F || (0x61 ≤ b && b ≤ 0x7A)

/-- The bytes before and after a place. -/
structure Place where
  input : ByteArray
  index : Nat

namespace Place

def before? (p : Place) : Option UInt8 := if p.index = 0 then none else p.input[p.index - 1]?

def after? (p : Place) : Option UInt8 := p.input[p.index]?

/-- The character after the place, by its first byte. -/
def charAfter? (p : Place) : Option Char :=
  match Text.frontChar (p.input.extract p.index (p.index + 4)).toList with
  | .ok (c, _) => some c
  | .error _ => none

/-- The number of bytes from the nearest byte that can begin a character to the place, of at most
four. -/
def stepBack (p : Place) : Nat :=
  let isLead (k : Nat) : Bool :=
    match p.input[p.index - k]? with
    | some b => !Text.isContinuation b
    | none => true
  ((List.range' 1 4).find? fun k => isLead k || k = p.index || k = 4).getD 1

def charBefore? (p : Place) : Option Char :=
  if p.index = 0 then none
  else
    match Text.frontChar (p.input.extract (p.index - p.stepBack) p.index).toList with
    | .ok (c, _) => some c
    | .error _ => none

def wordEdge (edge : WordEdge) (before after : Bool) : Bool :=
  match edge with
  | .boundary => before != after
  | .inside => before == after
  | .start => !before && after
  | .finish => before && !after
  | .startHalf => !before
  | .finishHalf => !after

/-- Among Unicode characters, what is no boundary must not stand in the middle of ill-formed
bytes. -/
def wideWordEdge (p : Place) (edge : WordEdge) : Bool :=
  let before := p.charBefore?
  let after := p.charAfter?
  let beforeReads := p.index = 0 || before.isSome
  let afterReads := p.index ≥ p.input.size || after.isSome
  let holds := wordEdge edge (before.any Unicode.isWord) (after.any Unicode.isWord)
  match edge with
  | .inside => beforeReads && afterReads && holds
  | .startHalf => beforeReads && holds
  | .finishHalf => afterReads && holds
  | _ => holds

def holds (p : Place) : Assertion → Bool
  | .textStart => p.index == 0
  | .textEnd => p.index == p.input.size
  | .lineStart => p.index == 0 || p.before? == some 0x0A
  | .lineEnd => p.index == p.input.size || p.after? == some 0x0A
  | .anyLineStart =>
    p.index == 0 || p.before? == some 0x0A || (p.before? == some 0x0D && p.after? != some 0x0A)
  | .anyLineEnd =>
    p.index == p.input.size || p.after? == some 0x0D ||
      (p.after? == some 0x0A && p.before? != some 0x0D)
  | .word edge false => wordEdge edge (p.before?.any isWordByte) (p.after?.any isWordByte)
  | .word edge true => p.wideWordEdge edge

end Place

/-- The marks that a way has passed, the latest in front. -/
abbrev Trail := List (Nat × Nat)

/-- A way that is alive: the state it is in once it has passed the bytes it waits for, which are
the rest of a character. -/
structure Thread where
  state : Nat
  trail : Trail
  wait : Nat

/-- The ways alive at one place, the least preferred in front, and the place at which each state
was last reached, plus one. -/
structure Frontier where
  threads : List Thread
  reached : Array Nat

namespace Frontier

def push (thread : Thread) (frontier : Frontier) : Frontier :=
  ⟨thread :: frontier.threads, frontier.reached⟩

/-- Follows the ways that read no byte from the pending states, the preferred ones first. Each
state is taken up once for a place, and leaves at most two states pending. -/
def follow (program : Program) (place : Place) :
    Nat → List Thread → Frontier → Frontier
  | 0, _, frontier => frontier
  | _, [], frontier => frontier
  | fuel + 1, thread :: pending, frontier =>
    if frontier.reached[thread.state]?.getD 0 == place.index + 1 then
      follow program place fuel pending frontier
    else
      let ⟨threads, reached⟩ := frontier
      let reached := reached.setIfInBounds thread.state (place.index + 1)
      match program.states[thread.state]? with
      | none | some .fail => follow program place fuel pending ⟨threads, reached⟩
      | some (.byte _ _) | some (.char _ _) | some .accept =>
        follow program place fuel pending ⟨thread :: threads, reached⟩
      | some (.fork preferred other) =>
        follow program place fuel
          (⟨preferred, thread.trail, 0⟩ :: ⟨other, thread.trail, 0⟩ :: pending) ⟨threads, reached⟩
      | some (.mark slot next) =>
        follow program place fuel (⟨next, (slot, place.index) :: thread.trail, 0⟩ :: pending)
          ⟨threads, reached⟩
      | some (.look assertion next) =>
        if place.holds assertion then
          follow program place fuel (⟨next, thread.trail, 0⟩ :: pending) ⟨threads, reached⟩
        else follow program place fuel pending ⟨threads, reached⟩

def add (program : Program) (place : Place) (thread : Thread) (frontier : Frontier) : Frontier :=
  follow program place (2 * program.states.size + 2) [thread] frontier

/-- Takes in a way that has passed a byte. -/
def arrive (program : Program) (place : Place) (thread : Thread) (frontier : Frontier) : Frontier :=
  if thread.wait = 0 then frontier.add program place thread else frontier.push thread

end Frontier

/-- Moves the ways over a byte in order of preference, up to the first that has matched. -/
def advance (program : Program) (next : Place) (b : UInt8) :
    List Thread → Frontier → Option Trail → Frontier × Option Trail
  | [], frontier, best => (frontier, best)
  | ⟨state, trail, wait + 1⟩ :: rest, frontier, best =>
    advance program next b rest (frontier.arrive program next ⟨state, trail, wait⟩) best
  | ⟨state, trail, 0⟩ :: rest, frontier, best =>
    match program.states[state]? with
    | some .accept => (frontier, some trail)
    | some (.byte set target) =>
      if set.contains b then
        advance program next b rest (frontier.arrive program next ⟨target, trail, 0⟩) best
      else advance program next b rest frontier best
    | some (.char set target) =>
      match (Place.mk next.input (next.index - 1)).charAfter? with
      | none => advance program next b rest frontier best
      | some c =>
        if set.contains c.toNat then
          let arriving : Thread := ⟨target, trail, c.utf8Size - 1⟩
          advance program next b rest (frontier.arrive program next arriving) best
        else advance program next b rest frontier best
    | _ => advance program next b rest frontier best

def acceptedTrail? (program : Program) (threads : List Thread) : Option Trail :=
  (threads.find? fun thread =>
    thread.wait == 0 && program.states[thread.state]? matches some .accept).map (·.trail)

/-- Searches on from a place with the frontier there, before the remaining bytes. While nothing has
matched, a new way starts at every place. -/
def searchFrom (program : Program) (input : ByteArray) :
    Nat → Bytes → Frontier → Option Trail → Option Trail
  | index, remaining, frontier, best =>
    let frontier :=
      if best.isSome then frontier
      else frontier.add program ⟨input, index⟩ ⟨program.start, [], 0⟩
    if frontier.threads.isEmpty && best.isSome then best
    else
      let threads := frontier.threads.reverse
      match remaining with
      | [] => (acceptedTrail? program threads).or best
      | b :: rest =>
        let (frontier, best) :=
          advance program ⟨input, index + 1⟩ b threads ⟨[], frontier.reached⟩ best
        searchFrom program input (index + 1) rest frontier best

/-- The trail of the preferred match at the first place that has one. -/
def search (program : Program) (bytes : Bytes) : Option Trail :=
  searchFrom program bytes.toByteArray 0 bytes ⟨[], Array.replicate program.states.size 0⟩ none

end ServiceProbe.Pattern
