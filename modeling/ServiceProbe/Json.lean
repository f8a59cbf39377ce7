import ServiceProbe.Decimal.Rounding

/-! # JSON values

Values with whole and binary numbers. An object keeps the order of its members. -/

namespace ServiceProbe
set_option autoImplicit false

inductive Json where
  | null
  | bool (value : Bool)
  | natural (value : Nat)
  | binary (value : Decimal.Binary)
  | string (value : String)
  | array (items : List Json)
  | object (members : List (String × Json))

namespace Json

def option {α : Type} (f : α → Json) : Option α → Json
  | none => null
  | some a => f a

def strings (values : List String) : Json := array (values.map string)

end Json
end ServiceProbe
