import PathKeeper.Bridge.Writer
import PathKeeper.Daemon.Options
import PathKeeper.Monitor
import PathKeeper.Source.Reading

/-!
# The pipeline of the daemon

Changes are read as lines, a session on the bridge is kept in step with them, and what it is told
is written as lines.
-/

namespace PathKeeper.Daemon

set_option autoImplicit false

inductive PipelineFault where
  /-- There is no coordinator for this configuration. -/
  | coordinator (fault : Coordinator.StartFault)
  | writer (failure : Failure)
  | writerPanicked
  | monitor (failure : Failure)
  deriving DecidableEq, Repr

/-- The text of a failure with that of its cause behind it, if it has one besides its own. -/
def chain (failure : Failure) : String :=
  match failure with
  | .io detail => s!"{failure.message}: {detail}"
  | .json fault => s!"{failure.message}: {fault.message}"
  | _ => failure.message

def startText : Coordinator.StartFault → String
  | .refused failure => chain failure
  | .overflow => "event channel capacity too large"

def PipelineFault.message : PipelineFault → String
  | .coordinator fault => s!"Failed to create coordinator: {startText fault}"
  | .writer failure => s!"Outbound writer failed: {chain failure}"
  | .writerPanicked => "Outbound writer task failed"
  | .monitor failure => s!"Path monitor failed: {chain failure}"

namespace Pipeline

def notifier : NotifyMode → Notifier
  | .bridge => .bridge
  | .log => .log

/-- Attaches the session, ready for changes. -/
def start (options : Options) : Except Coordinator.StartFault Host :=
  match Host.new options.settings (notifier options.notify) with
  | .ok host =>
    .ok ((host.perform (.attach .bridge)).write [Log.info "Ready to monitor network path changes"])
  | .error fault => .error fault

/-- Detaches the session. -/
def stop (host : Host) : Host :=
  (host.write [Log.info "Shutting down daemon"]).perform .detach

/-- The lines that are due for the writer. -/
def lines (host : Host) : List (List Char) := host.queue.messages.map Bridge.Message.line

/-- What the log says when the writer has ended. -/
def writerEntries (options : Options) : Bridge.Ending → List Log.Entry
  | .complete n =>
    [Log.debug (Bridge.closingText n), Log.debug s!"Outbound writer flushed {n} line(s)"]
  | .stalled =>
    [Log.warn s!"Outbound writer did not finish within {options.shutdownTimeout}s"]
  | _ => []

/-- What becomes of the pipeline when the writer has ended. A writer that never ends is left
alone. -/
def result : Bridge.Ending → Except PipelineFault Unit
  | .complete _ => .ok ()
  | .failed failure => .error (.writer failure)
  | .panicked => .error .writerPanicked
  | .stalled => .ok ()

structure Report where
  result : Except PipelineFault Unit
  output : List Char
  log : List Log.Entry
  deriving Repr

/-- The first fault, that of the writer before that of the monitor. -/
def conclusion (writer : Except PipelineFault Unit) (monitor : Except Failure Unit) :
    Except PipelineFault Unit :=
  match writer, monitor with
  | .error fault, _ => .error fault
  | .ok (), .error failure => .error (.monitor failure)
  | .ok (), .ok () => .ok ()

/-- What the lines of a host that has stopped come to. -/
def report (options : Options) (sink : Bridge.Sink) (monitored : Except Failure Unit)
    (host : Host) : Report :=
  let (output, ending) := Bridge.write sink (lines host)
  ⟨conclusion (result ending) monitored, output, host.log ++ writerEntries options ending⟩

def run (options : Options) (request : Monitor.Request) (source : Monitor.PathSource)
    (sink : Bridge.Sink) : Report :=
  match start options with
  | .error fault => ⟨.error (.coordinator fault), [], []⟩
  | .ok host =>
    let (monitored, host) := Monitor.run request source host
    report options sink monitored (stop host)

/-- The source that reads lines from an input. The first line stands for the current network. -/
def inputSource (chunks : List (List UInt8)) (ending : Source.Ending) : Monitor.PathSource :=
  ⟨.ok none, (Source.readings chunks ending).map Source.Reading.arrival,
    Source.closes chunks ending⟩

end Pipeline

end PathKeeper.Daemon
