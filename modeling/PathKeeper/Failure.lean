import PathKeeper.Json.Fault

/-!
# Failures

What can go wrong with resolvers, sources, sessions and settings, with the text that is shown.
-/

namespace PathKeeper

set_option autoImplicit false

inductive Failure where
  /-- A resolver entry that is no address. -/
  | invalidAddress (detail : String)
  | pathSource (detail : String)
  | session (detail : String)
  | settings (detail : String)
  | io (detail : String)
  | json (fault : Json.Fault)
  deriving DecidableEq, Repr

namespace Failure

def message : Failure → String
  | .invalidAddress detail => "Invalid resolver address: " ++ detail
  | .pathSource detail => "Path source error: " ++ detail
  | .session detail => "Tunnel session error: " ++ detail
  | .settings detail => "Configuration error: " ++ detail
  | .io detail => "I/O error: " ++ detail
  | .json fault => "JSON error: " ++ fault.message

end Failure

end PathKeeper
