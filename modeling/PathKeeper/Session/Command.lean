import PathKeeper.Network
import PathKeeper.Status

/-!
# Commands

What a tunnel session can be told.
-/

namespace PathKeeper

set_option autoImplicit false

inductive Command where
  | setServers (servers : Servers)
  | reconnect
  | setStatus (status : SessionStatus)
  deriving DecidableEq, Repr

end PathKeeper
