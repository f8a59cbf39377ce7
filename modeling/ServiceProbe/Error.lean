/-! # Errors

What can go wrong with a database, a target or an exchange. The first kinds stop a database from
loading; the network kinds only spoil one attempt of a scan. -/

namespace ServiceProbe
set_option autoImplicit false

inductive Error where
  | config (detail : String)
  | duplicateProbe (name : String)
  | parse (detail : String)
  | network (detail : String)
  | io (detail : String)
  | timeout (detail : String)
  | tcpWrapped
  | invalidTarget (detail : String)
  | notInitialized
  deriving DecidableEq, Repr

namespace Error

def message : Error → String
  | config detail => "Configuration error: " ++ detail
  | duplicateProbe name => "Duplicate probe name: " ++ name
  | parse detail => "Parse error: " ++ detail
  | network detail => "Network error: " ++ detail
  | io detail => "I/O error: " ++ detail
  | timeout detail => "Timeout error: " ++ detail
  | tcpWrapped => "tcpwrapped: peer closed the connection without data"
  | invalidTarget detail => "Invalid target: " ++ detail
  | notInitialized => "Probe registry not initialized"

/-- The errors that say something about one attempt only. -/
def isNetwork : Error → Bool
  | network _ | io _ | timeout _ | tcpWrapped => true
  | _ => false

end Error
end ServiceProbe
