import PathKeeper.Daemon.Service

/-!
# The command line

Reads changes from standard input, drives an engine on standard output, and logs to standard error.
-/

namespace PathKeeper.CommandLine

set_option autoImplicit false

open Daemon (Options)

/-- Writes the lines of a log to standard error. -/
def showLog (level : Log.Level) (entries : List Log.Entry) : IO Unit :=
  for entry in entries.filter (Log.Entry.shownAt level) do
    IO.eprintln s!"{entry.level.label} {entry.text}"

/-- Writes one line; tells how writing ended if it failed. -/
def writeLine (line : List Char) : IO (Option Bridge.Ending) := do
  let stdout ← IO.getStdout
  try
    stdout.putStr (String.ofList line)
    stdout.flush
    return none
  catch e => return some (.failed (.io (toString e)))

/-- Writes the messages that are due; after a failure the bridge is closed. -/
def writeMessages (messages : List Bridge.Message) (count : Nat) (host : Host) :
    IO (Bridge.Ending × Host) := do
  let mut written := count
  for message in messages do
    match ← writeLine message.line with
    | some ending => return (ending, host.closeBridge)
    | none => written := written + 1
  return (.complete written, host)

def publish (level : Log.Level) (ending : Bridge.Ending) (host : Host) :
    IO (Bridge.Ending × Host) := do
  let (harvest, host) := host.harvest
  showLog level harvest.log
  match ending with
  | .complete count => writeMessages harvest.messages count host
  | ending => return (ending, host)

/-- Reads the next chunk; an empty one ends the input. -/
def readChunk : IO Source.Answer := do
  let stdin ← IO.getStdin
  try
    return .ok (← stdin.read 4096).toList
  catch e => return .error (toString e)

def takeIn (readings : List Source.Reading) (host : Host) : Host :=
  readings.foldl (fun host reading => Monitor.step reading.arrival host) host

/-- Takes in the input until it ends or breaks off. -/
partial def pump (level : Log.Level) (feed : Source.Feed) (ending : Bridge.Ending) (host : Host) :
    IO (Bridge.Ending × Host) := do
  if feed.isBroken then return (ending, host)
  match ← readChunk with
  | .ok [] => return (ending, takeIn (feed.finish .eof) host)
  | .error reason => return (ending, takeIn (feed.finish (.failure reason)) host)
  | .ok chunk =>
    let (readings, feed) := feed.take chunk
    let (ending, host) ← publish level ending (takeIn readings host)
    pump level feed ending host

/-- Runs the pipeline on the standard streams. -/
def serve (options : Options) (level : Log.Level) (host : Host) : IO Daemon.ExitCode := do
  let (ending, host) ← publish level (.complete 0) (Monitor.start none host)
  let (ending, host) ← pump level .start ending host
  let host := Daemon.Pipeline.stop (host.write [Monitor.Reason.ended.entry])
  let (ending, _) ← publish level ending host
  showLog level (Daemon.Pipeline.writerEntries options ending)
  match Daemon.Pipeline.result ending with
  | .ok () => return .clean
  | .error fault =>
    showLog level [Daemon.failureEntry fault.message]
    return .failed

def run : IO Daemon.ExitCode := do
  let logLevel ← IO.getEnv Daemon.Variable.logLevel.name
  let policy ← IO.getEnv Daemon.Variable.malformedEntries.name
  let capacity ← IO.getEnv Daemon.Variable.eventCapacity.name
  let timeout ← IO.getEnv Daemon.Variable.shutdownTimeout.name
  let notify ← IO.getEnv Daemon.Variable.notify.name
  let vars : Daemon.Variables
    | .logLevel => logLevel
    | .malformedEntries => policy
    | .eventCapacity => capacity
    | .shutdownTimeout => timeout
    | .notify => notify
  match Daemon.configure vars with
  | .error refusal =>
    IO.eprintln refusal.message
    return .misconfigured
  | .ok (options, level) =>
    showLog level (Daemon.greeting options)
    match Daemon.Pipeline.start options with
    | .error fault =>
      showLog level [Daemon.failureEntry (Daemon.PipelineFault.coordinator fault).message]
      return .failed
    | .ok host => serve options level host

end PathKeeper.CommandLine

def main : IO UInt32 := do
  let code ← PathKeeper.CommandLine.run
  return UInt32.ofNat code.number
