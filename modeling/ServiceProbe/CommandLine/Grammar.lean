import ServiceProbe.Text.Cut
import ServiceProbe.Text.Number

/-! # Grammars of command lines

A command has options with long and short names. An option with a value takes the rest of its own
word or the next word; short options can share a word. An option is checked when the next one begins
or the line ends, and what is unknown is reported before what is pending. After two hyphens alone
every word stands for itself. -/

namespace ServiceProbe
set_option autoImplicit false

/-- Why a command line is refused, or answered with something else than a run. -/
inductive UsageFault where
  | invalidValue
  | valueValidation
  | unknownArgument
  | invalidSubcommand
  | tooManyValues
  | argumentConflict
  | missingRequiredArgument
  | missingSubcommand
  | displayHelp
  | displayVersion
  | displayHelpOnMissing
  deriving DecidableEq, Repr

/-- The value that an option was given. -/
inductive OptionValue where
  | text (t : Text)
  | number (n : Nat)
  deriving DecidableEq

/-- What an option does when it is given. -/
inductive OptionAction where
  | value (read : Text → Except UsageFault OptionValue)
  | flag
  | count
  | help
  | version

structure OptionSpec where
  long : Text
  short : Option Char
  action : OptionAction

namespace OptionSpec

def takesValue (o : OptionSpec) : Bool :=
  match o.action with
  | .value _ => true
  | _ => false

end OptionSpec

/-- The options and the subcommands of a command. -/
structure CommandSpec where
  options : List OptionSpec
  subcommands : List Text

namespace CommandSpec

def long? (spec : CommandSpec) (name : Text) : Option OptionSpec :=
  spec.options.find? fun o => o.long = name

def short? (spec : CommandSpec) (c : Char) : Option OptionSpec :=
  spec.options.find? fun o => o.short = some c

end CommandSpec

/-- How far a command line has been read. -/
structure CommandState where
  /-- The values of options by their long names. -/
  given : List (Text × OptionValue)
  /-- An option that is not checked yet, with its value if that has come. -/
  pending : Option (OptionSpec × Option Text)
  /-- Whether two hyphens alone have been read. -/
  trailing : Bool

namespace CommandState

def start : CommandState := ⟨[], none, false⟩

def value? (s : CommandState) (name : Text) : Option OptionValue := s.given.lookup name

def number? (s : CommandState) (name : Text) : Option Nat :=
  match s.value? name with
  | some (.number n) => some n
  | _ => none

def text? (s : CommandState) (name : Text) : Option Text :=
  match s.value? name with
  | some (.text t) => some t
  | _ => none

def put (s : CommandState) (name : Text) (value : OptionValue) : CommandState :=
  { s with given := (name, value) :: s.given.filter fun entry => entry.1 != name }

/-- The highest number that an option can be counted to. -/
def countLimit : Nat := 255

/-- Takes in an option with its value. An option with a value and a flag can be given once. -/
def take (s : CommandState) (o : OptionSpec) (value : Text) : Except UsageFault CommandState :=
  match o.action with
  | .value read =>
    if (s.value? o.long).isSome then throw .argumentConflict
    else (read value).map (s.put o.long)
  | .flag => if (s.value? o.long).isSome then throw .argumentConflict else pure (s.put o.long (.number 1))
  | .count => pure (s.put o.long (.number (min countLimit ((s.number? o.long).getD 0 + 1))))
  | .help => throw .displayHelp
  | .version => throw .displayVersion

/-- Checks the option that is pending. -/
def resolve (s : CommandState) : Except UsageFault CommandState :=
  match s.pending with
  | none => pure s
  | some (_, none) => throw .invalidValue
  | some (o, some value) => { s with pending := none }.take o value

/-- Takes in an option after the one that is pending. -/
def react (s : CommandState) (o : OptionSpec) (value : Text) : Except UsageFault CommandState := do
  (← s.resolve).take o value

/-- Leaves the value of an option to the next word. -/
def await (s : CommandState) (o : OptionSpec) : Except UsageFault CommandState := do
  pure { (← s.resolve) with pending := some (o, none) }

/-- The option that the next word is the value of. -/
def awaited? (s : CommandState) : Option OptionSpec :=
  match s.pending with
  | some (o, none) => some o
  | _ => none

end CommandState

namespace CommandSpec

/-- A long option, with what stands after an equals sign. -/
def readLong (spec : CommandSpec) (s : CommandState) (name : Text) (attached : Option Text) :
    Except UsageFault CommandState :=
  match spec.long? name with
  | none => throw .unknownArgument
  | some o =>
    match o.takesValue, attached with
    | true, some value => s.react o value
    | true, none => s.await o
    | false, some _ => throw .tooManyValues
    | false, none => s.react o []

/-- The short options of a word. -/
def readShort (spec : CommandSpec) : CommandState → Text → Except UsageFault CommandState
  | s, [] => pure s
  | s, c :: rest =>
    match spec.short? c with
    | none => throw .unknownArgument
    | some o =>
      if o.takesValue then
        match rest with
        | [] => s.await o
        | '=' :: value => s.react o value
        | value => s.react o value
      else do
        let s ← s.react o []
        readShort spec s rest

/-- What a word that is no option and no value leads to. -/
def strayFault (spec : CommandSpec) (s : CommandState) (word : Text) : UsageFault :=
  if spec.subcommands.isEmpty then .unknownArgument
  else if s.trailing && spec.subcommands.contains word then .unknownArgument
  else .invalidSubcommand

/-- Takes in a word that is no subcommand. -/
def readWord (spec : CommandSpec) (s : CommandState) (word : Text) :
    Except UsageFault CommandState :=
  if s.trailing then throw (spec.strayFault s word)
  else
    match word with
    | ['-', '-'] => pure { s with trailing := true }
    | '-' :: '-' :: rest =>
      match Text.cutOn? '=' rest with
      | some (name, value) => spec.readLong s name (some value)
      | none => spec.readLong s rest none
    | '-' :: c :: rest => spec.readShort s (c :: rest)
    | _ =>
      match s.awaited? with
      | some o => pure { s with pending := some (o, some word) }
      | none => throw (spec.strayFault s word)

/-- Whether a word calls a subcommand. -/
def calls (spec : CommandSpec) (s : CommandState) (word : Text) : Bool :=
  !s.trailing && s.awaited?.isNone && spec.subcommands.contains word

/-- Reads words up to a subcommand, which is given with the words after it. -/
def read (spec : CommandSpec) : CommandState → List Text →
    Except UsageFault (CommandState × Option (Text × List Text))
  | s, [] => do pure (← s.resolve, none)
  | s, word :: rest =>
    if spec.calls s word then pure (s, some (word, rest))
    else do
      let s ← spec.readWord s word
      read spec s rest

end CommandSpec
end ServiceProbe
