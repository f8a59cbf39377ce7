import ServiceProbe.Registry

/-! # Databases

A database is a text of lines. A line that begins a probe opens a block, which holds the lines after
it up to the next such line; the block is compiled and registered when it ends. An exclusion counts
at its own line, wherever it stands. Other lines are passed over, and directives that belong to no
probe are reported. -/

namespace ServiceProbe
set_option autoImplicit false

/-- What a database says that is not taken in. -/
inductive Warning where
  | strayLine (number : Nat) (keyword : Text)
  | droppedProbe (fault : ProbeFault)
  | skippedLine (probe : String) (fault : ProbeFault)
  deriving DecidableEq

namespace Warning

def message : Warning → String
  | strayLine number keyword =>
    "line " ++ toString number ++ ": '" ++ String.ofList keyword ++ "' outside of any Probe, skipped"
  | droppedProbe fault => "dropping probe: " ++ fault.toError.message
  | skippedLine probe fault =>
    "probe " ++ probe ++ ": skipping line: " ++ fault.toError.message

end Warning

namespace Database

def keywords : List Text :=
  ["Exclude", "Probe", "match", "softmatch", "ports", "sslports", "totalwaitms", "tcpwrappedms",
    "rarity", "fallback"].map String.toList

def backquoteMark : Text := "$\x7bbackquote\x7d".toList

/-- The directive that a line carries, if any. -/
def keyword? (line : Text) : Option Text :=
  if Text.utf8Length line < 2 || line.head? = some '#' then none
  else ((Text.nextWord? line).map (·.1)).filter keywords.contains

/-- What has been read of a database. -/
structure Reading where
  registry : Registry
  /-- The lines of the block that is open. -/
  block : Option (List Text)
  warnings : List Warning

/-- Why a database does not load, with the warnings up to there. -/
structure Refusal where
  error : Error
  warnings : List Warning

namespace Reading

def start : Reading := ⟨.empty, none, []⟩

def warn (r : Reading) (warnings : List Warning) : Reading :=
  { r with warnings := r.warnings ++ warnings }

/-- Goes on with the registry that a call leaves, or refuses the database if it fails. -/
def settle (r : Reading) : Registry × Option Error → Except Refusal Reading
  | (registry, none) => pure { r with registry := registry }
  | (_, some e) => throw ⟨e, r.warnings⟩

/-- Compiles and registers a block. A block without a proper header is dropped whole. -/
def flush (r : Reading) (lines : List Text) : Except Refusal Reading :=
  match Probe.compile lines with
  | .error fault => pure (r.warn [.droppedProbe fault])
  | .ok (probe, faults) =>
    let r := r.warn (faults.map (.skippedLine probe.name))
    r.settle (r.registry.register probe)

/-- Ends the block that is open. -/
def close (r : Reading) : Except Refusal Reading :=
  match r.block with
  | none => pure r
  | some lines => ({ r with block := none } : Reading).flush lines

/-- What a line with the keyword of an exclusion excludes. -/
def excludeArgument (line : Text) : Text := (Text.nextWord? line).elim [] (·.2)

/-- Takes in a line. -/
def step (r : Reading) (number : Nat) (line : Text) : Except Refusal Reading :=
  match keyword? line with
  | none => pure r
  | some keyword =>
    if keyword = "Exclude".toList then r.settle (r.registry.addExclude (excludeArgument line))
    else if keyword = "Probe".toList then do
      let r ← r.close
      pure { r with block := some [line] }
    else
      match r.block with
      | some lines => pure { r with block := some (lines ++ [line]) }
      | none => pure (r.warn [.strayLine number keyword])

end Reading

/-- The lines of a database, numbered from one. -/
def numberedLines (t : Text) : List (Text × Nat) :=
  (Text.lines (Text.replace backquoteMark ['\x60'] t)).zipIdx 1

/-- Loads a database. -/
def load (t : Text) : Except Refusal (Registry × List Warning) := do
  let r ← (numberedLines t).foldlM (fun r (line, number) => r.step number line) Reading.start
  let r ← r.close
  pure (r.registry, r.warnings)

end Database

/-- The registry of a database. -/
def Registry.parse (t : Text) : Except Error Registry :=
  ((Database.load t).mapError (·.error)).map (·.1)

end ServiceProbe
