import PathKeeper.Bridge.Scribe
import PathKeeper.Daemon.Pipeline

/-!
# The pipeline and its writer side by side

The writer is at work while the pipeline runs. It gets its turns between whatever happens to the
host, and may be gone long before the pipeline stops; then the queue is closed. When the pipeline
has stopped the writer works on until it ends.
-/

namespace PathKeeper

set_option autoImplicit false

open Coordinator (Happening Operation)

namespace Daemon

/-- How many turns the writer gets before the thing that has so many others before it happens. -/
abbrev Pace := Nat → Nat

/-- A host and its writer. -/
structure Tandem where
  host : Host
  scribe : Bridge.Scribe
  /-- What has happened to the host. -/
  trace : List (Happening Engine)
  deriving Repr

namespace Tandem

open Bridge (Answer Outlet)

def turn (outlet : Outlet) (tandem : Tandem) : Tandem :=
  let (scribe, queue) := tandem.scribe.turn outlet tandem.host.queue
  { tandem with scribe, host := { tandem.host with queue } }

def turns (outlet : Outlet) : Nat → Tandem → Tandem
  | 0, tandem => tandem
  | n + 1, tandem => turns outlet n (tandem.turn outlet)

/-- Something happens to the host, after the turns that the writer gets before. -/
def absorb (outlet : Outlet) (pace : Pace) (tandem : Tandem) (happening : Happening Engine) :
    Tandem :=
  let tandem := tandem.turns outlet (pace tandem.trace.length)
  { tandem with host := tandem.host.absorb happening, trace := tandem.trace ++ [happening] }

def perform (outlet : Outlet) (pace : Pace) (tandem : Tandem) (op : Operation Engine) : Tandem :=
  let host := tandem.host
  let outcome := host.coordinator.operate (Host.Disturbance.none.interference host.notifier) op
  outcome.trace.foldl (absorb outlet pace)
    { tandem with host := { host.provide op with coordinator := outcome.coordinator } }

/-- What a pipeline does: the session is attached, the changes come, and it is detached. -/
def operations (request : Monitor.Request) (source : Monitor.PathSource) :
    List (Operation Engine) :=
  .attach .bridge :: ((Monitor.applied request source).map .change ++ [.detach])

structure Report where
  result : Except PipelineFault Unit
  /-- The bytes that the outlet took. -/
  output : List UInt8
  /-- What the calls to the outlet came to. -/
  answers : List Answer
  coordinator : Coordinator Engine
  trace : List (Happening Engine)
  deriving Repr

/-- What there is to report when the writer has ended too. -/
def report (source : Monitor.PathSource) (scribe : Bridge.Scribe) (tandem : Tandem) : Report where
  result := Pipeline.conclusion ((scribe.ending.map Pipeline.result).getD (.ok ()))
    (source.current.map fun _ => ())
  output := scribe.output
  answers := scribe.answers
  coordinator := tandem.host.coordinator
  trace := tandem.trace

/-- Runs a source through a pipeline whose writer is at work all the time. -/
def run (options : Options) (request : Monitor.Request) (source : Monitor.PathSource)
    (outlet : Outlet) (pace : Pace) : Except Coordinator.StartFault Report :=
  match Host.new options.settings (Pipeline.notifier options.notify) with
  | .error fault => .error fault
  | .ok host =>
    let tandem := (operations request source).foldl (perform outlet pace) ⟨host, .fresh, []⟩
    .ok (report source (tandem.scribe.finish outlet tandem.host.queue.messages) tandem)

end Tandem

end Daemon

end PathKeeper
