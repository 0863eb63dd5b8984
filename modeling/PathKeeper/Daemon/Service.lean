import PathKeeper.Daemon.Pipeline

/-!
# The daemon as a process

The process configures itself from its environment, runs the pipeline between its input and its
output, and tells by its exit code how that went.
-/

namespace PathKeeper.Daemon

set_option autoImplicit false

inductive ExitCode where
  | clean
  /-- The configuration is refused. -/
  | misconfigured
  | failed
  deriving DecidableEq, Repr

def ExitCode.number : ExitCode → Nat
  | .clean => 0
  | .misconfigured => 1
  | .failed => 2

/-- The signals that end the process in good order. -/
inductive Signal where
  | terminate
  | interrupt
  deriving DecidableEq, Repr

def Signal.name : Signal → String
  | .terminate => "SIGTERM"
  | .interrupt => "SIGINT"

def Signal.request (signal : Signal) : Monitor.Request :=
  { Monitor.Request.late with
    entries := [Log.info s!"Received shutdown signal: {signal.name}"] }

/-- Why the process does not start. -/
inductive Refusal where
  | unreadable (fault : Fault)
  | invalid (fault : Fault)
  deriving DecidableEq, Repr

def Refusal.message : Refusal → String
  | .unreadable fault => s!"Configuration error: {fault.message}"
  | .invalid fault => s!"Configuration validation error: {fault.message}"

/-- The configuration and the level of the log. -/
def configure (vars : Variables) : Except Refusal (Options × Log.Level) :=
  match Options.read vars with
  | .error fault => .error (.unreadable fault)
  | .ok options =>
    match options.validate with
    | .error fault => .error (.invalid fault)
    | .ok () => .ok (options, options.level.toOption.getD .info)

def greeting (options : Options) : List Log.Entry :=
  [Log.info "Starting netpathd daemon",
    Log.info s!"Malformed DNS policy: {options.policy.name}, notify: {options.notify.title}"]

def failureEntry (message : String) : Log.Entry := Log.error s!"Daemon error: {message}"

namespace Service

/-- What a process leaves behind. -/
structure Report where
  exit : ExitCode
  output : List Char
  /-- The complaint of a process that did not start. -/
  complaint : Option String
  log : List Log.Entry
  deriving Repr

/-- The report of a process whose pipeline has run. -/
def conclude (options : Options) (level : Log.Level) (report : Pipeline.Report) : Report :=
  let shown := (greeting options ++ report.log).filter (Log.Entry.shownAt level)
  match report.result with
  | .ok () => ⟨.clean, report.output, none, shown⟩
  | .error fault => ⟨.failed, report.output, none, shown ++ [failureEntry fault.message]⟩

def run (vars : Variables) (request : Monitor.Request) (source : Monitor.PathSource)
    (sink : Bridge.Sink) : Report :=
  match configure vars with
  | .error refusal => ⟨.misconfigured, [], some refusal.message, []⟩
  | .ok (options, level) => conclude options level (Pipeline.run options request source sink)

end Service

end PathKeeper.Daemon
