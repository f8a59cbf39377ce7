import ServiceProbe.Program

/-! # The command

Reads files and the environment for the program and prints what it says. No network is reached from
here: every exchange fails as on a machine without one. -/

namespace ServiceProbe
set_option autoImplicit false

namespace Machine

def fileFault : IO.Error → FileFault
  | .noFileOrDirectory .. => .missing
  | .inappropriateType .. => .directory
  | e => .other (toString e)

def readFile (path : String) : IO (Except FileFault Bytes) := do
  try
    return .ok (← IO.FS.readBinFile path).toList
  catch e => return .error (fileFault e)

/-- The path that a line names for the database. -/
def databasePath? (words : List Text) : Option String :=
  match CommandLine.read words with
  | .ok ⟨_, .scan a⟩ => a.probes
  | .ok ⟨_, .probes _ database⟩ => database
  | .error _ => none

/-- A machine with the file that a line names. -/
def ofLine (words : List Text) : IO Machine := do
  let content ← match databasePath? words with
    | some path => readFile path
    | none => pure (.error .missing)
  let allowLarge ← IO.getEnv "NETRA_ALLOW_LARGE_CIDR"
  return {
    file := fun _ => content
    allowLarge := allowLarge
    resolver := .numeric
    network := .unplugged
    ping := fun _ => false
    elapsed := fun _ => .zero
    duration := .zero }

end Machine
end ServiceProbe

open ServiceProbe in
def main (arguments : List String) : IO UInt32 := do
  let words := arguments.map String.toList
  let exit := Program.run (← Machine.ofLine words) words
  IO.print exit.output
  IO.eprint exit.errors
  return exit.code.toUInt32
