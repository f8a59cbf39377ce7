import ServiceProbe.Error
import ServiceProbe.VersionInfo

/-! # Rules

A rule names a service for the replies that its pattern matches. A hard rule identifies the service,
a soft one narrows it down. The line of a rule holds the kind, the service, the pattern between two
equal delimiters with its flags, and the version information. -/

namespace ServiceProbe
set_option autoImplicit false

inductive RuleKind where
  | hard
  | soft
  deriving DecidableEq, Repr

structure Rule where
  service : String
  kind : RuleKind
  pattern : Pattern
  fields : VersionInfo

/-- Why a line is no rule. -/
inductive RuleFault where
  | incomplete (line : Text)
  | notDirective (word : Text)
  | withoutPattern (line : Text)
  | unmarkedPattern (line : Text)
  | unterminated (line : Text)
  | unknownFlag (flag : Char) (line : Text)
  | badPattern (service : Text) (fault : PatternFault)
  deriving DecidableEq

namespace RuleFault

def message : RuleFault → String
  | incomplete line => "incomplete rule '" ++ String.ofList line ++ "'"
  | notDirective word => "not a rule directive '" ++ String.ofList word ++ "'"
  | withoutPattern line => "rule without pattern '" ++ String.ofList line ++ "'"
  | unmarkedPattern line => "rule pattern must start with 'm' in '" ++ String.ofList line ++ "'"
  | unterminated line => "unterminated rule pattern in '" ++ String.ofList line ++ "'"
  | unknownFlag flag line =>
    "unknown rule flag '" ++ String.singleton flag ++ "' in '" ++ String.ofList line ++ "'"
  | badPattern service fault =>
    "bad rule pattern for " ++ String.ofList service ++ ": " ++ fault.message

def toError (fault : RuleFault) : Error := .parse fault.message

end RuleFault

namespace Rule

@[macro_inline]
def orFault {α : Type} (fault : RuleFault) : Option α → Except RuleFault α
  | some a => pure a
  | none => throw fault

def readKind (word : Text) : Except RuleFault RuleKind :=
  if word = "match".toList then pure .hard
  else if word = "softmatch".toList then pure .soft
  else throw (.notDirective word)

def readFlag (line : Text) (flags : PatternFlags) (c : Char) : Except RuleFault PatternFlags :=
  if c = 'i' then pure { flags with ignoreCase := true }
  else if c = 's' then pure { flags with dotMatchesNewLine := true }
  else throw (.unknownFlag c line)

def readFlags (line flags : Text) : Except RuleFault PatternFlags :=
  flags.foldlM (readFlag line) ⟨false, false⟩

/-- Reads the line of a rule. -/
def compile (line : Text) : Except RuleFault Rule := do
  let (word, rest) ← orFault (.incomplete line) (Text.cutAt? Text.isBlank line.trim)
  let kind ← readKind word
  let (service, rest) ← orFault (.withoutPattern line) (Text.cutAt? Text.isBlank rest.trimStart)
  let rest ← orFault (.unmarkedPattern line) (Text.after? ['m'] rest.trimStart)
  let (pattern, rest) ← orFault (.unterminated line) (Text.delimited? rest)
  let (flags, info) := Text.word rest
  let flags ← readFlags line flags
  let pattern ←
    orFault (.badPattern service (Pattern.fault pattern flags)) (Pattern.compile? pattern flags)
  pure ⟨String.ofList service, kind, pattern, VersionInfo.parse info⟩

def isMatch (r : Rule) (reply : Bytes) : Bool := r.pattern.isMatch reply

/-- The finger of a match before its fields are filled in. -/
def blankFinger (r : Rule) (probe : String) : Finger where
  probe := probe
  service := r.service
  soft := r.kind == .soft

/-- What the rule makes of a reply to the probe with that name. -/
def finger? (r : Rule) (probe : String) (reply : Bytes) : Option Finger :=
  (r.pattern.captures? reply).map fun captures =>
    r.fields.fill captures.group? (r.blankFinger probe)

end Rule
end ServiceProbe
