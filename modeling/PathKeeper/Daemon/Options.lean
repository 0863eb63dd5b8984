import PathKeeper.Coordinator.Basic
import PathKeeper.Text.Decimal

/-!
# Options of the daemon

The daemon is set up by variables. What cannot be read and what is out of range is a fault; the
first one is reported.
-/

namespace PathKeeper.Daemon

set_option autoImplicit false

/-- Where status events go. -/
inductive NotifyMode where
  | bridge
  | log
  deriving DecidableEq, Repr

def NotifyMode.name : NotifyMode → String
  | .bridge => "bridge"
  | .log => "log"

/-- The name with a capital, as the log shows it. -/
def NotifyMode.title : NotifyMode → String
  | .bridge => "Bridge"
  | .log => "Log"

inductive Variable where
  | malformedEntries | eventCapacity | shutdownTimeout | notify | logLevel
  deriving DecidableEq, Repr

def Variable.name : Variable → String
  | .malformedEntries => "NETPATH_MALFORMED_DNS"
  | .eventCapacity => "NETPATH_EVENT_CHANNEL_CAPACITY"
  | .shutdownTimeout => "NETPATH_SHUTDOWN_TIMEOUT_SECS"
  | .notify => "NETPATH_NOTIFY"
  | .logLevel => "NETPATH_LOG_LEVEL"

inductive Fault where
  | policy (failure : Failure)
  | capacityNumber (text : String) (fault : Text.Decimal.Fault)
  | timeoutNumber (text : String) (fault : Text.Decimal.Fault)
  | notifyMode (lowered : String)
  | capacityOutOfRange (capacity : Nat)
  | timeoutOutOfRange (seconds : Nat)
  | level (text : String)
  | settings (failure : Failure)
  deriving DecidableEq, Repr

/-- The least and the greatest capacity that is allowed. -/
def capacityRange : Nat × Nat := (1, 100000)

/-- The least and the greatest number of seconds that is allowed. -/
def timeoutRange : Nat × Nat := (1, 300)

def Fault.message : Fault → String
  | .policy failure => s!"{Variable.malformedEntries.name} is not valid: {failure.message}"
  | .capacityNumber text fault =>
    s!"{Variable.eventCapacity.name} must be a number. Got: {text}: {fault.message}"
  | .timeoutNumber text fault =>
    s!"{Variable.shutdownTimeout.name} must be a number. Got: {text}: {fault.message}"
  | .notifyMode lowered =>
    s!"{Variable.notify.name} '{lowered}' is not supported. Supported modes: bridge, log"
  | .capacityOutOfRange capacity =>
    s!"{Variable.eventCapacity.name} must be between {capacityRange.1} and {capacityRange.2}. " ++
      s!"Got: {capacity}"
  | .timeoutOutOfRange seconds =>
    s!"{Variable.shutdownTimeout.name} must be between {timeoutRange.1} and {timeoutRange.2} " ++
      s!"seconds. Got: {seconds}"
  | .level text =>
    s!"{Variable.logLevel.name} '{text}' is not valid. " ++
      "Valid levels: trace, debug, info, warn, error"
  | .settings failure => s!"Coordinator configuration is not valid: {failure.message}"

structure Options where
  logLevel : String
  policy : Policy
  eventCapacity : Nat
  shutdownTimeout : Nat
  notify : NotifyMode
  deriving DecidableEq, Repr

/-- The values of the variables; none for one that is not set. -/
abbrev Variables := Variable → Option String

namespace Options

def defaults : Options := ⟨"info", .skip, Settings.default.eventCapacity, 10, .bridge⟩

def readPolicy : Option String → Except Fault Policy
  | none => .ok defaults.policy
  | some text => (Policy.ofText text).mapError .policy

/-- Reads a number; blanks around it do not matter. -/
def readNumber (fault : String → Text.Decimal.Fault → Fault) (default : Nat) :
    Option String → Except Fault Nat
  | none => .ok default
  | some text => (Text.Decimal.read (Text.trim text.toList)).mapError (fault text)

def readNotify : Option String → Except Fault NotifyMode
  | none => .ok defaults.notify
  | some text =>
    match Text.lower (Text.trimmed text) with
    | "bridge" => .ok .bridge
    | "log" => .ok .log
    | other => .error (.notifyMode other)

/-- Reads the variables in their order. -/
def read (vars : Variables) : Except Fault Options := do
  let policy ← readPolicy (vars .malformedEntries)
  let capacity ← readNumber .capacityNumber defaults.eventCapacity (vars .eventCapacity)
  let timeout ← readNumber .timeoutNumber defaults.shutdownTimeout (vars .shutdownTimeout)
  let notify ← readNotify (vars .notify)
  .ok ⟨(vars .logLevel).getD defaults.logLevel, policy, capacity, timeout, notify⟩

/-- The level of the log. Its name may have capitals. -/
def level (options : Options) : Except Fault Log.Level :=
  match Log.Level.ofName? (Text.lower options.logLevel) with
  | some level => .ok level
  | none => .error (.level options.logLevel)

def settings (options : Options) : Settings := ⟨options.policy, options.eventCapacity⟩

def isWithin (range : Nat × Nat) (n : Nat) : Bool := range.1 ≤ n && n ≤ range.2

/-- Checks the ranges in their order, then the level and the settings of the coordinator. -/
def validate (options : Options) : Except Fault Unit :=
  if isWithin capacityRange options.eventCapacity then
    if isWithin timeoutRange options.shutdownTimeout then
      match options.level with
      | .ok _ => options.settings.validate.mapError .settings
      | .error fault => .error fault
    else .error (.timeoutOutOfRange options.shutdownTimeout)
  else .error (.capacityOutOfRange options.eventCapacity)

end Options

end PathKeeper.Daemon
