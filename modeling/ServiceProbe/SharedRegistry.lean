import ServiceProbe.Database.Builtin

/-! # The shared registry

A process builds the registry of the built-in database at most once, when it is first asked for it,
and every later user gets the same one. -/

namespace ServiceProbe
set_option autoImplicit false

structure SharedRegistry where
  registry : Option Registry

namespace SharedRegistry

def initial : SharedRegistry := ⟨none⟩

/-- The registry, built from `build` unless it is there. -/
def init (s : SharedRegistry) (build : Except Error Registry) : Except Error (Registry × SharedRegistry) :=
  match s.registry with
  | some r => pure (r, s)
  | none => build.map fun r => (r, ⟨some r⟩)

/-- The registry for a new scanner. -/
def require (s : SharedRegistry) : Except Error Registry :=
  match s.registry with
  | some r => pure r
  | none => throw .notInitialized

end SharedRegistry
end ServiceProbe
