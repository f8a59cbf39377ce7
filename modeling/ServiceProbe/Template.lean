import ServiceProbe.Pattern
import ServiceProbe.Text.Cut
import ServiceProbe.Text.Number
import ServiceProbe.Text.Utf8

/-! # Templates

A template is literal text with placeholders for the groups of a match. A dollar sign that begins
no placeholder is literal. A group that took no part in the match leaves nothing behind. -/

namespace ServiceProbe
set_option autoImplicit false

inductive Segment where
  | literal (text : Text)
  /-- The group as text. -/
  | group (index : Nat)
  /-- The printable ASCII characters of the group. -/
  | printable (index : Nat)
  /-- The group as text, with one text replaced by another. -/
  | subst (index : Nat) (old new : Text)
  /-- The number that the first eight bytes of the group spell. -/
  | int (index : Nat) (bigEndian : Bool)
  deriving DecidableEq

namespace Segment

def isPrintable (b : UInt8) : Bool := 0x20 ≤ b && b ≤ 0x7E

def appendByte (n : UInt64) (b : UInt8) : UInt64 := (n <<< 8) ||| b.toUInt64

/-- The number that up to eight bytes spell. -/
def number (bigEndian : Bool) (bytes : Bytes) : UInt64 :=
  let digits := bytes.take 8
  (if bigEndian then digits else digits.reverse).foldl appendByte 0

def renderGroup (bytes : Bytes) : Segment → Text
  | literal text => text
  | group _ => Text.decodeLossy bytes
  | printable _ => (bytes.filter isPrintable).map fun b => Char.ofNat b.toNat
  | subst _ old new => Text.replace old new (Text.decodeLossy bytes)
  | int _ bigEndian => Text.ofNat (number bigEndian bytes).toNat

def index? : Segment → Option Nat
  | literal _ => none
  | group index | printable index | subst index _ _ | int index _ => some index

def render (groups : Nat → Option Bytes) (s : Segment) : Text :=
  match s.index? with
  | none => s.renderGroup []
  | some index =>
    match groups index with
    | none => []
    | some bytes => s.renderGroup bytes

end Segment

abbrev Template := List Segment

namespace Template

/-- The highest number of a group. -/
def groupLimit : Nat := UInt64.size - 1

def readIndex? (t : Text) : Option Nat := Text.readUnsigned? groupLimit t.trim

/-- A text between quotes, and what follows it. -/
def quoted? : Text → Option (Text × Text)
  | '"' :: body => Text.cutOn? '"' body
  | _ => none

def printableArguments? (args : Text) : Option (Segment × Text) := do
  let (inner, rest) ← Text.cutOn? ')' args
  let index ← readIndex? inner
  pure (.printable index, rest)

/-- The arguments end at the first quote with a parenthesis after it. -/
def substArguments? (args : Text) : Option (Segment × Text) := do
  let (inner, rest) ← Text.cutMark? ['"', ')'] args
  let (index, inner) ← Text.cutOn? ',' (inner ++ ['"'])
  let index ← readIndex? index
  let (old, inner) ← quoted? inner.trimStart
  let inner ← Text.after? [','] inner.trimStart
  let (new, _) ← quoted? inner.trimStart
  pure (.subst index old new, rest)

def byteOrder? (t : Text) : Option Bool :=
  match t with
  | ['"', '>', '"'] => some true
  | ['"', '<', '"'] => some false
  | _ => none

def intArguments? (args : Text) : Option (Segment × Text) := do
  let (inner, rest) ← Text.cutOn? ')' args
  let (index, order) ← Text.cutOn? ',' inner
  let index ← readIndex? index
  let bigEndian ← byteOrder? order.trim
  pure (.int index bigEndian, rest)

/-- The placeholder after a dollar sign, and what follows it. -/
def placeholder? (t : Text) : Option (Segment × Text) :=
  match t with
  | [] => none
  | c :: rest =>
    if c.isDigit then some (.group (Text.digitValue c), rest)
    else
      match Text.after? ['P', '('] t with
      | some args => printableArguments? args
      | none =>
        match Text.after? "SUBST(".toList t with
        | some args => substArguments? args
        | none =>
          match Text.after? ['I', '('] t with
          | some args => intArguments? args
          | none => none

/-- What follows a placeholder is shorter than the text that begins with it. -/
theorem length_placeholder? {t rest : Text} {s : Segment} (h : placeholder? t = some (s, rest)) :
    rest.length < t.length := by
  unfold placeholder? at h
  split at h
  · cases h
  · rename_i c tail
    split at h
    · obtain ⟨_, rfl⟩ := Prod.mk.inj (Option.some.inj h)
      simp
    · split at h
      · rename_i args hArgs
        obtain ⟨⟨inner, after⟩, hCut, h⟩ := Option.bind_eq_some_iff.mp h
        obtain ⟨index, _, h⟩ := Option.bind_eq_some_iff.mp h
        obtain ⟨_, rfl⟩ := Prod.mk.inj (Option.some.inj h)
        exact Nat.lt_of_lt_of_le (Text.length_cutAt? hCut) (Text.length_after? hArgs)
      · split at h
        · rename_i args hArgs
          obtain ⟨⟨inner, after⟩, hCut, h⟩ := Option.bind_eq_some_iff.mp h
          obtain ⟨⟨index, inner⟩, _, h⟩ := Option.bind_eq_some_iff.mp h
          obtain ⟨index, _, h⟩ := Option.bind_eq_some_iff.mp h
          obtain ⟨⟨old, inner⟩, _, h⟩ := Option.bind_eq_some_iff.mp h
          obtain ⟨inner, _, h⟩ := Option.bind_eq_some_iff.mp h
          obtain ⟨⟨new, inner⟩, _, h⟩ := Option.bind_eq_some_iff.mp h
          obtain ⟨_, rfl⟩ := Prod.mk.inj (Option.some.inj h)
          have hCut := Text.length_cutMark? hCut
          rw [Text.after?_eq_some_iff.mp hArgs, List.length_append]
          simp
          omega
        · split at h
          · rename_i args hArgs
            obtain ⟨⟨inner, after⟩, hCut, h⟩ := Option.bind_eq_some_iff.mp h
            obtain ⟨⟨index, order⟩, _, h⟩ := Option.bind_eq_some_iff.mp h
            obtain ⟨index, _, h⟩ := Option.bind_eq_some_iff.mp h
            obtain ⟨bigEndian, _, h⟩ := Option.bind_eq_some_iff.mp h
            obtain ⟨_, rfl⟩ := Prod.mk.inj (Option.some.inj h)
            exact Nat.lt_of_lt_of_le (Text.length_cutAt? hCut) (Text.length_after? hArgs)
          · cases h

/-- A literal, unless it is empty, in front of further segments. -/
def consLiteral (literal : Text) (segments : Template) : Template :=
  if literal.isEmpty then segments else .literal literal :: segments

/-- Reads a template after the literal text `literal`, which is given backwards. -/
def parseFrom (literal : Text) (t : Text) : Template :=
  match t with
  | [] => consLiteral literal.reverse []
  | c :: rest =>
    if c = '$' then
      match h : placeholder? rest with
      | some (segment, after) =>
        have := length_placeholder? h
        consLiteral literal.reverse (segment :: parseFrom [] after)
      | none => parseFrom ('$' :: literal) rest
    else parseFrom (c :: literal) rest
termination_by t.length

def parse (t : Text) : Template := parseFrom [] t

def render (groups : Nat → Option Bytes) (template : Template) : Text :=
  template.flatMap (Segment.render groups)

end Template
end ServiceProbe
