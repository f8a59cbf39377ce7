import ServiceProbe.Probe
import ServiceProbe.Text.Quoted

/-! # Registries

A registry holds probes under distinct names, the order in which they were declared, the ports that
no scan touches, and for every port the names of the probes that apply to it. A call gives the
registry back also when it fails. -/

namespace ServiceProbe
set_option autoImplicit false

structure Registry where
  /-- The names of the probes in the order of their declaration. -/
  names : List String
  /-- The probes under their names. -/
  entries : List (String × Probe)
  /-- The names that each port is given, by its number. -/
  table : Vector (List String) 65536
  exclude : PortSet

namespace Registry

def empty : Registry := ⟨[], [], Vector.replicate 65536 [], .empty⟩

def size (r : Registry) : Nat := r.names.length

def isEmpty (r : Registry) : Bool := r.names.isEmpty

def probe? (r : Registry) (name : String) : Option Probe := r.entries.lookup name

/-- The probes in the order of their declaration. -/
def probes (r : Registry) : List Probe := r.names.filterMap r.probe?

/-- The names of the probes that apply to a port, in the order of their declaration. -/
def dispatch (r : Registry) (port : Port) : List String :=
  getElem r.table port.toNat port.toNat_lt

def isExcluded (r : Registry) (port : Port) : Bool := r.exclude.contains port

/-- The ports that a probe is listed under. -/
def coverage (p : Probe) : PortSet :=
  if p.isCatchAll then p.ports.fill else p.ports.union p.sslPorts

/-- Lists a name under the ports of a set, after the names that are there. -/
def enlist (table : Vector (List String) 65536) (name : String) (ports : PortSet) :
    Vector (List String) 65536 :=
  table.mapIdx fun i names => if ports.contains (UInt16.ofNat i) then names ++ [name] else names

/-- Adds a probe, unless its name is taken. -/
def register (r : Registry) (p : Probe) : Registry × Option Error :=
  if (r.probe? p.name).isSome then (r, some (.duplicateProbe p.name))
  else
    ({ r with
        names := r.names ++ [p.name]
        entries := (p.name, p) :: r.entries
        table := enlist r.table p.name (coverage p) }, none)

def excludeError (expression : Text) (fault : PortFault) : Error :=
  .config ("malformed Exclude directive '" ++ String.ofList expression.trim ++ "': " ++
    fault.toError.message)

/-- Adds the ports of an expression to the excluded ones. -/
def addExclude (r : Registry) (expression : Text) : Registry × Option Error :=
  let (exclude, fault?) := r.exclude.load expression
  ({ r with exclude := exclude }, fault?.map (excludeError expression))

/-- A run of ports that are given the same names. -/
structure Run where
  first : Port
  last : Port
  names : List String
  deriving DecidableEq

/-- Adds a port to a list of runs, the latest in front. Ports without names are left out. -/
def extendRuns (runs : List Run) (port : Port) (names : List String) : List Run :=
  if names.isEmpty then runs
  else
    match runs with
    | run :: older =>
      if run.last + 1 = port && run.names = names then { run with last := port } :: older
      else ⟨port, port, names⟩ :: runs
    | [] => [⟨port, port, names⟩]

/-- The dispatch table as maximal runs of ports that share their names. -/
def runs (r : Registry) : List Run :=
  (r.table.toList.zipIdx.foldl (fun runs (names, i) => extendRuns runs (UInt16.ofNat i) names)
    []).reverse

/-- A one-line account of the registry for diagnostics. -/
def describe (r : Registry) : String :=
  let names := r.names.map fun name => String.ofList (Text.quoted name.toList)
  "ProbeRegistry \x7b probes: [" ++ String.intercalate ", " names ++ "], exclude: " ++
    r.exclude.describe ++ " \x7d"

@[simp] theorem dispatch_empty (port : Port) : empty.dispatch port = [] := by
  simp [dispatch, empty]

theorem contains_coverage (p : Probe) (port : Port) :
    (coverage p).contains port = p.appliesTo port := by
  unfold coverage Probe.appliesTo
  cases h : p.isCatchAll with
  | true => simp [PortSet.contains_fill]
  | false =>
    by_cases hp : port = 0
    · subst hp
      simp [PortSet.contains]
    · simp [PortSet.contains_union, hp]

end Registry
end ServiceProbe
