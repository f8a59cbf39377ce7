import ServiceProbe.Json.Reader

/-! # Passing over JSON values

A value that nobody asks for is passed over. It has to be JSON, but its strings may hold halves of
pairs and its numbers may be of any size. -/

namespace ServiceProbe.JsonReader
set_option autoImplicit false

/-- What a value is part of. -/
inductive Frame where
  | array
  | object
  deriving DecidableEq, Repr

namespace Frame

def closer : Frame → Char
  | array => ']'
  | object => '\x7d'

end Frame

/-- A value without parts, or the beginning of one with parts. -/
def skipStart : JsonReader (Option Frame) := do
  match (← peek) with
  | 'n' => do drop; rest ['u', 'l', 'l']; pure none
  | 't' => do drop; rest ['r', 'u', 'e']; pure none
  | 'f' => do drop; rest ['a', 'l', 's', 'e']; pure none
  | '"' => do drop; let _ ← stringTail true; pure none
  | '[' => do drop; pure (some .array)
  | '\x7b' => do drop; pure (some .object)
  | c =>
    if c = '-' || c.isDigit then do
      let _ ← numeral true
      pure none
    else fail .malformed

/-- The key of a member and its colon. -/
def skipKey : JsonReader Unit := do
  if (← peek) = '"' then do
    drop
    let _ ← stringTail true
    if (← peek) = ':' then drop else fail .malformed
  else fail .malformed

def skipLead : Frame → JsonReader Unit
  | .array => pure ()
  | .object => skipKey

/-- Closes what can be closed after a part, and gives the frames that a further part stands in. The
frame in front is the innermost one; it has no part yet if it is `fresh`. -/
def skipEnds : List Frame → Bool → JsonReader (List Frame)
  | [], _ => pure []
  | frame :: outer, fresh => do
    let c ← peek
    if c = frame.closer then do
      drop
      skipEnds outer false
    else if fresh then pure (frame :: outer)
    else if c = ',' then do
      drop
      pure (frame :: outer)
    else fail .malformed

/-- Passes over a part of the innermost frame and all that follows within the frames. -/
def skipParts : Nat → List Frame → JsonReader Unit
  | 0, _ => fail .truncated
  | fuel + 1, frames => do
    let frames ← match (← skipStart) with
      | some frame => skipEnds (frame :: frames) true
      | none => skipEnds frames false
    match frames with
    | [] => pure ()
    | frame :: _ => do
      skipLead frame
      skipParts fuel frames

/-- Passes over a value. Every part takes at least one character. -/
def skip : JsonReader Unit := do
  let t ← get
  skipParts (t.length + 1) []

end ServiceProbe.JsonReader
