import ServiceProbe.CommandLine.Grammar
import ServiceProbe.Port.Range
import ServiceProbe.ScanOptions

/-! # The command line

There are two commands. One identifies the services on targets, the other lists the probes or those
of one port. Every command counts how often more words are asked for. -/

namespace ServiceProbe
set_option autoImplicit false

structure ScanArguments where
  targets : String
  ports : String
  concurrency : Option UInt64
  rateLimit : UInt32
  timeout : Option UInt64
  maxWait : Option UInt64
  rarity : Option UInt8
  probes : Option String
  discover : Bool
  noExclude : Bool
  outputFormat : String
  preset : String
  deriving DecidableEq, Repr

namespace ScanArguments

def presetOptions (name : String) : ScanOptions :=
  if name = "fast" then .fast else if name = "accurate" then .accurate else .balanced

/-- The preset with what the line says on its own put over it. -/
def options (a : ScanArguments) : ScanOptions :=
  let base := presetOptions a.preset
  { base with
    maxConcurrency := (a.concurrency.map (max 1)).getD base.maxConcurrency
    rateLimit := if a.rateLimit = 0 then base.rateLimit else some a.rateLimit
    totalWait := (a.timeout.map Duration.ofMillis).getD base.totalWait
    maxWait := (a.maxWait.map Duration.ofMillis).or base.maxWait
    rarityThreshold := a.rarity.or base.rarityThreshold
    honorExclude := !a.noExclude }

end ScanArguments

inductive Command where
  | scan (arguments : ScanArguments)
  | probes (port : Option Port) (database : Option String)
  deriving DecidableEq, Repr

structure Invocation where
  verbose : Nat
  command : Command
  deriving DecidableEq, Repr

namespace CommandLine

def readText (t : Text) : Except UsageFault OptionValue := pure (.text t)

/-- A path has at least one character. -/
def readPath (t : Text) : Except UsageFault OptionValue :=
  if t.isEmpty then throw .invalidValue else pure (.text t)

def readAmong (names : List String) (t : Text) : Except UsageFault OptionValue :=
  if String.ofList t ∈ names then pure (.text t) else throw .invalidValue

/-- A number without a sign, or with a plus. -/
def readUnsigned (limit : Nat) (t : Text) : Except UsageFault OptionValue :=
  match Text.readUnsigned? limit t with
  | some n => pure (.number n)
  | none => throw .valueValidation

/-- A number with any sign that lies in a range. -/
def readBetween (low high : Nat) (t : Text) : Except UsageFault OptionValue :=
  match Text.readSigned? t with
  | some n =>
    if (low : Int) ≤ n && n ≤ (high : Int) then pure (.number n.toNat) else throw .valueValidation
  | none => throw .valueValidation

def option (long : String) (short : Option Char) (action : OptionAction) : OptionSpec :=
  ⟨long.toList, short, action⟩

def verboseOption : OptionSpec := option "verbose" (some 'v') .count

def helpOption : OptionSpec := option "help" (some 'h') .help

def probesOption : OptionSpec := option "probes" none (.value readPath)

def topSpec : CommandSpec where
  options := [verboseOption, helpOption, option "version" (some 'V') .version]
  subcommands := ["scan", "probes", "help"].map String.toList

def scanSpec : CommandSpec where
  options := [
    option "targets" (some 't') (.value readText),
    option "ports" (some 'p') (.value readText),
    option "concurrency" (some 'c') (.value (readUnsigned (UInt64.size - 1))),
    option "rate-limit" (some 'r') (.value (readBetween 0 (UInt32.size - 1))),
    option "timeout" none (.value (readUnsigned (UInt64.size - 1))),
    option "max-wait" none (.value (readUnsigned (UInt64.size - 1))),
    option "rarity" none (.value (readBetween 1 9)),
    probesOption,
    option "discover" none .flag,
    option "no-exclude" none .flag,
    option "output-format" (some 'o') (.value (readAmong ["text", "table", "json", "csv"])),
    option "preset" none (.value (readAmong ["fast", "balanced", "accurate"])),
    verboseOption,
    helpOption]
  subcommands := []

def probesSpec : CommandSpec where
  options := [
    option "port" none (.value (readBetween 0 65535)),
    probesOption,
    verboseOption,
    helpOption]
  subcommands := []

/-- The value of an option as a string. -/
def stringOf? (s : CommandState) (name : String) : Option String :=
  (s.text? name.toList).map String.ofList

def numberOf? (s : CommandState) (name : String) : Option Nat := s.number? name.toList

def scanArguments (s : CommandState) : Except UsageFault ScanArguments :=
  match stringOf? s "targets" with
  | none => throw .missingRequiredArgument
  | some targets =>
    pure {
      targets := targets
      ports := (stringOf? s "ports").getD "80"
      concurrency := (numberOf? s "concurrency").map UInt64.ofNat
      rateLimit := UInt32.ofNat ((numberOf? s "rate-limit").getD 0)
      timeout := (numberOf? s "timeout").map UInt64.ofNat
      maxWait := (numberOf? s "max-wait").map UInt64.ofNat
      rarity := (numberOf? s "rarity").map UInt8.ofNat
      probes := stringOf? s "probes"
      discover := (numberOf? s "discover").isSome
      noExclude := (numberOf? s "no-exclude").isSome
      outputFormat := (stringOf? s "output-format").getD "text"
      preset := (stringOf? s "preset").getD "balanced" }

/-- How often more words are asked for. What a command says itself goes before what stands in front
of it. -/
def verbosity (top own : CommandState) : Nat :=
  ((numberOf? own "verbose").or (numberOf? top "verbose")).getD 0

/-- Help is shown for a command by its name, and there are no names below that. -/
def helpFault : List Text → UsageFault
  | [] => .displayHelp
  | [name] => if topSpec.subcommands.contains name then .displayHelp else .invalidSubcommand
  | _ => .invalidSubcommand

def readScan (top : CommandState) (words : List Text) : Except UsageFault Invocation := do
  let (s, _) ← scanSpec.read .start words
  let arguments ← scanArguments s
  pure ⟨verbosity top s, .scan arguments⟩

def readProbes (top : CommandState) (words : List Text) : Except UsageFault Invocation := do
  let (s, _) ← probesSpec.read .start words
  pure ⟨verbosity top s,
    .probes ((numberOf? s "port").map UInt16.ofNat) (stringOf? s "probes")⟩

/-- A line without any command. -/
def withoutCommand (top : CommandState) : UsageFault :=
  if top.given.isEmpty then .displayHelpOnMissing else .missingSubcommand

/-- Reads the words after the name of the program. -/
def read (words : List Text) : Except UsageFault Invocation := do
  let (top, call) ← topSpec.read .start words
  match call with
  | none => throw (withoutCommand top)
  | some (name, rest) =>
    if name = "scan".toList then readScan top rest
    else if name = "probes".toList then readProbes top rest
    else throw (helpFault rest)

end CommandLine
end ServiceProbe
