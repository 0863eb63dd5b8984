import PathKeeper.Json.Reader

/-!
# Status

The status of a tunnel session and the events that a user is told about, with their names.
-/

namespace PathKeeper

set_option autoImplicit false

inductive SessionStatus where
  | down | connecting | up | error
  deriving DecidableEq, Repr

inductive StatusEvent where
  | connected | disconnected | reconnecting | error
  deriving DecidableEq, Repr

namespace SessionStatus

def name : SessionStatus → String
  | .down => "down"
  | .connecting => "connecting"
  | .up => "up"
  | .error => "error"

/-- The name with a capital, as a message shows it. -/
def title : SessionStatus → String
  | .down => "Down"
  | .connecting => "Connecting"
  | .up => "Up"
  | .error => "Error"

def all : List SessionStatus := [.down, .connecting, .up, .error]

def names : Json.Names SessionStatus := all.map fun status => (status.name, status)

@[simp] theorem value_names (status : SessionStatus) : names.value status.name = .ok status := by
  cases status <;> rfl

end SessionStatus

namespace StatusEvent

def name : StatusEvent → String
  | .connected => "connected"
  | .disconnected => "disconnected"
  | .reconnecting => "reconnecting"
  | .error => "error"

/-- The name with a capital, as a message shows it. -/
def title : StatusEvent → String
  | .connected => "Connected"
  | .disconnected => "Disconnected"
  | .reconnecting => "Reconnecting"
  | .error => "Error"

def all : List StatusEvent := [.connected, .disconnected, .reconnecting, .error]

def names : Json.Names StatusEvent := all.map fun event => (event.name, event)

@[simp] theorem value_names (event : StatusEvent) : names.value event.name = .ok event := by
  cases event <;> rfl

end StatusEvent

end PathKeeper
