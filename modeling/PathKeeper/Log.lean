/-!
# Log lines

A log line has a level, a message and named fields.
-/

namespace PathKeeper.Log

set_option autoImplicit false

inductive Level where
  | trace | debug | info | warn | error
  deriving DecidableEq, Repr

namespace Level

/-- Levels from the most talkative on. -/
def rank : Level → Nat
  | .trace => 0
  | .debug => 1
  | .info => 2
  | .warn => 3
  | .error => 4

/-- The name in front of a line. -/
def label : Level → String
  | .trace => "TRACE"
  | .debug => "DEBUG"
  | .info => "INFO"
  | .warn => "WARN"
  | .error => "ERROR"

def ofName? : String → Option Level
  | "trace" => some .trace
  | "debug" => some .debug
  | "info" => some .info
  | "warn" => some .warn
  | "error" => some .error
  | _ => none

end Level

structure Entry where
  level : Level
  message : String
  fields : List (String × String)
  deriving DecidableEq, Repr

def debug (message : String) : Entry := ⟨.debug, message, []⟩

def info (message : String) : Entry := ⟨.info, message, []⟩

def warn (message : String) : Entry := ⟨.warn, message, []⟩

def error (message : String) : Entry := ⟨.error, message, []⟩

namespace Entry

/-- The fields as `name=value`. -/
def fieldTexts (entry : Entry) : List String :=
  entry.fields.map fun (name, value) => name ++ "=" ++ value

/-- The message with its fields behind it. -/
def text (entry : Entry) : String :=
  " ".intercalate (entry.message :: entry.fieldTexts)

def shownAt (level : Level) (entry : Entry) : Bool := level.rank ≤ entry.level.rank

end Entry

end PathKeeper.Log
