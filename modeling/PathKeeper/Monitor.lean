import PathKeeper.Host
import PathKeeper.Source.Arrival

/-!
# The monitor

A monitor applies the current network and then what arrives, one after another, until the source
ends or a shutdown is requested. The request may be noticed before any arrival.
-/

namespace PathKeeper.Monitor

set_option autoImplicit false

open Source (Arrival)

structure PathSource where
  current : Except Failure (Option Change)
  stream : List Arrival
  /-- Whether the stream ends; otherwise nothing more comes. -/
  closes : Bool
  deriving Repr

/-- A request for shutdown. -/
structure Request where
  /-- Whether it is noticed before the arrival that has so many others before it. -/
  noticed : Nat → Bool
  /-- What the log says about it. -/
  entries : List Log.Entry

/-- No request before nothing more comes. -/
def Request.late : Request := ⟨fun _ => false, []⟩

/-- Why a monitor stops. -/
inductive Reason where
  | ended
  | shutdown
  deriving DecidableEq, Repr

def Reason.entry : Reason → Log.Entry
  | .ended => Log.info "Path monitor stopped: path source ended"
  | .shutdown => Log.info "Path monitor stopped: shutdown signal"

def apply (change : Change) (host : Host) : Host := host.perform (.change change)

/-- Applies the current network, if there is one. -/
def start (current : Option Change) (host : Host) : Host :=
  match current with
  | some change =>
    apply change (host.write [Log.info s!"Initial network: {change.identity.token}"])
  | none => host.write [Log.debug "No active network at startup"]

def step (arrival : Arrival) (host : Host) : Host :=
  let host := host.write arrival.entries
  match arrival.change with
  | some change => apply change host
  | none => host

/-- Takes in arrivals, `i` others before them, until the stream ends or a request for shutdown is
noticed. Behind the last arrival of a stream that stays open there is nothing else to wait for. -/
def loop (noticed : Nat → Bool) (closes : Bool) : Nat → List Arrival → Host → Reason × Host
  | i, stream, host =>
    if noticed i then (.shutdown, host)
    else
      match stream with
      | [] => (if closes then .ended else .shutdown, host)
      | arrival :: rest => loop noticed closes (i + 1) rest (step arrival host)
termination_by structural _ stream => stream

/-- The arrivals that a monitor takes in, `i` others before them. -/
def taken (noticed : Nat → Bool) : Nat → List Arrival → List Arrival
  | _, [] => []
  | i, arrival :: rest => if noticed i then [] else arrival :: taken noticed (i + 1) rest

/-- The changes that a monitor applies. -/
def applied (request : Request) (source : PathSource) : List Change :=
  match source.current with
  | .error _ => []
  | .ok current =>
    current.toList ++ (taken request.noticed 0 source.stream).filterMap Arrival.change

/-- The last words of a monitor. -/
def farewell (request : Request) : Reason → List Log.Entry
  | .ended => [Reason.ended.entry]
  | .shutdown => request.entries ++ [Reason.shutdown.entry]

def run (request : Request) (source : PathSource) (host : Host) : Except Failure Unit × Host :=
  match source.current with
  | .error failure => (.error failure, host)
  | .ok current =>
    let (reason, host) := loop request.noticed source.closes 0 source.stream (start current host)
    (.ok (), host.write (farewell request reason))

end PathKeeper.Monitor
