/-! # Fingers

A finger is what a matching rule says about a service: the probe that owns the rule, the name of the
service, and whatever the reply gave away about it. -/

namespace ServiceProbe
set_option autoImplicit false

structure Finger where
  probe : String
  service : String
  product : Option String := none
  version : Option String := none
  info : Option String := none
  hostname : Option String := none
  os : Option String := none
  deviceType : Option String := none
  cpe : List String := []
  soft : Bool := false
  deriving DecidableEq, Repr

namespace Finger

/-- Product, version and the information in parentheses, without what is missing. -/
def versionLine (f : Finger) : String :=
  let line := String.intercalate " " (f.product.toList ++ f.version.toList)
  match f.info with
  | none => line
  | some info => (if line.isEmpty then line else line ++ " ") ++ "(" ++ info ++ ")"

end Finger
end ServiceProbe
