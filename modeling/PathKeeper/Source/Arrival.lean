import PathKeeper.Log
import PathKeeper.Network

/-!
# Arrivals

What a source has to say from time to time: entries for the log, and perhaps a change.
-/

namespace PathKeeper.Source

set_option autoImplicit false

structure Arrival where
  entries : List Log.Entry
  change : Option Change
  deriving DecidableEq, Repr

namespace Arrival

/-- A change that leaves no trace in the log of its own. -/
def ofChange (change : Change) : Arrival := ⟨[], some change⟩

end Arrival

end PathKeeper.Source
