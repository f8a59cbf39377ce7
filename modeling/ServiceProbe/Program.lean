import ServiceProbe.CommandLine
import ServiceProbe.Directory
import ServiceProbe.Discovery
import ServiceProbe.Expansion
import ServiceProbe.Listing
import ServiceProbe.NetworkTransport
import ServiceProbe.Orchestrator
import ServiceProbe.SharedRegistry

/-! # The program

A run of the program reads its command line, loads a registry, and either lists it or scans targets
with it and reports what it found. What the machine does for it is given from outside. -/

namespace ServiceProbe
set_option autoImplicit false

/-- What a run of the program finds around it. -/
structure Machine where
  file : String → Except FileFault Bytes
  /-- The value of the environment variable that lifts the limit on blocks. -/
  allowLarge : Option String
  resolver : Resolver
  network : Network
  ping : Address → Bool
  /-- The time that a scan takes at each place, and altogether. -/
  elapsed : Nat → Duration
  duration : Duration

/-- Why a run of the program fails. -/
inductive ProgramFault where
  | unreadable (path : String) (fault : FileFault)
  | badDatabase (path : String) (error : Error)
  | badBuiltin (error : Error)
  | targets (fault : ExpansionFault)
  | ports (fault : PortListFault)
  | run (fault : RunFault)

namespace ProgramFault

/-- What is said first, and the cause of it if there is one. -/
def parts : ProgramFault → String × Option String
  | unreadable path fault => ("Failed to read probe database " ++ path, some fault.message)
  | badDatabase path e => ("Invalid probe database " ++ path, some e.message)
  | badBuiltin e => ("Embedded probe database failed to load", some e.message)
  | targets (.badEnd text) =>
    ("Invalid end IP: " ++ String.ofList text, some "invalid IPv4 address syntax")
  | targets fault => (fault.message, none)
  | ports fault =>
    ("Invalid port list '" ++ String.ofList fault.list ++ "'", some fault.fault.toError.message)
  | run fault => (fault.message, none)

/-- The fault in one line. -/
def message (fault : ProgramFault) : String :=
  let (text, cause) := fault.parts
  cause.elim text fun cause => text ++ ": " ++ cause

/-- The fault as it is reported in the end. -/
def report (fault : ProgramFault) : String :=
  let (text, cause) := fault.parts
  "Error: " ++ text ++ "\n" ++
    cause.elim "" fun cause => "\nCaused by:\n    " ++ cause ++ "\n"

end ProgramFault

namespace Program

def versionText : String := "netra 0.1.0\n"

def readText (machine : Machine) (path : String) : Except ProgramFault Text :=
  match machine.file path with
  | .error fault => throw (.unreadable path fault)
  | .ok bytes =>
    match Text.decode? bytes with
    | some t => pure t
    | none => throw (.unreadable path .notText)

/-- The registry of a file, or the built-in one. -/
def loadRegistry (machine : Machine) : Option String → Except ProgramFault Registry
  | none => Registry.builtin.mapError .badBuiltin
  | some path => do
    let t ← readText machine path
    (Registry.parse t).mapError (.badDatabase path)

/-- Every host with every port, host by host and in the order of the ports. -/
def crossTargets (hosts : List Address) (ports : PortSet) : List Target :=
  let ports := ports.toList
  hosts.flatMap fun host =>
    ports.map fun port => Target.ofHostPort (String.ofList host.render) port

def transport (machine : Machine) (options : ScanOptions) : Transport := fun _ request =>
  (NetworkTransport.ofOptions options).exchange machine.network machine.resolver request

def hostsToScan (machine : Machine) (discover : Bool) (hosts : List Address) : List Address :=
  if discover then ({} : Discovery).filterAlive machine.network machine.ping hosts else hosts

/-- The orchestrator of a scan, with the job in its queue. -/
def prepare (registry : Registry) (options : ScanOptions) (targets : List Target) : Orchestrator :=
  ((Orchestrator.ofOptions options).addFingerprinter Orchestrator.defaultName
    (.ofScanner ⟨registry, options⟩)).submit ⟨0, targets, .zero⟩

/-- The records of a scan. -/
def scanRecords (machine : Machine) (a : ScanArguments) : Except ProgramFault (List Record) := do
  let registry ← loadRegistry machine a.probes
  let large := Expansion.liftsLimit machine.allowLarge
  let hosts ← (Expansion.expand machine.resolver large a.targets.toList).mapError .targets
  let ports ← (Expansion.ports a.ports.toList).mapError .ports
  let targets := crossTargets (hostsToScan machine a.discover hosts) ports
  let around : Surroundings := ⟨transport machine a.options, machine.elapsed⟩
  ((prepare registry a.options targets).run around none).result.mapError .run

def scan (machine : Machine) (a : ScanArguments) : Except ProgramFault Text := do
  let records ← scanRecords machine a
  pure (Report.render (.ofName a.outputFormat.toList) records machine.duration)

def list (machine : Machine) (port : Option Port) (database : Option String) :
    Except ProgramFault Text := do
  let registry ← loadRegistry machine database
  match port with
  | some port => pure (Listing.dispatch registry port)
  | none => pure (Listing.probes registry)

/-- What a command prints. -/
def perform (machine : Machine) : Command → Except ProgramFault Text
  | .scan a => scan machine a
  | .probes port database => list machine port database

/-- How the program ends. -/
structure Exit where
  code : UInt8
  output : String
  errors : String
  deriving DecidableEq, Repr

/-- What is shown for a line that is no command. The wording of help is left to the shell. -/
def usageExit : UsageFault → Exit
  | .displayVersion => ⟨0, versionText, ""⟩
  | .displayHelp => ⟨0, "", ""⟩
  | _ => ⟨2, "", ""⟩

def run (machine : Machine) (words : List Text) : Exit :=
  match CommandLine.read words with
  | .error fault => usageExit fault
  | .ok invocation =>
    match perform machine invocation.command with
    | .ok t => ⟨0, String.ofList t, ""⟩
    | .error fault => ⟨1, "", fault.report⟩

end Program
end ServiceProbe
