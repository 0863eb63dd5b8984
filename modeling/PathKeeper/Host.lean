import PathKeeper.Bridge.Queue
import PathKeeper.Coordinator.Basic
import PathKeeper.Session.Shelf

/-!
# Hosts

A host runs a coordinator together with what it drives: sessions that keep a record, that remember
in memory, or that pass commands over the bridge, and a notifier. It keeps what each of them
received, and the log.
-/

namespace PathKeeper

set_option autoImplicit false

/-- A session by its kind. Those of the same kind and name are the same. -/
inductive Engine where
  | recorder (name : String)
  /-- Keeps a record, but takes no notice of its status. -/
  | mute (name : String)
  | memory (name : String)
  | bridge
  deriving DecidableEq, Repr

/-- Where the user is told of events. -/
inductive Notifier where
  | recorder
  | bridge
  | log
  deriving DecidableEq, Repr

namespace Coordinator

inductive Point where
  | setStatus | notify | setServers | reconnect
  deriving DecidableEq, Repr

def Call.point {σ : Type} : Call σ → Point
  | .command _ (.setStatus _) => .setStatus
  | .command _ (.setServers _) => .setServers
  | .command _ .reconnect => .reconnect
  | .notify _ => .notify

end Coordinator

open Coordinator (Call Happening Interference Operation Outcome Point State)

structure Host where
  coordinator : Coordinator Engine
  notifier : Notifier
  /-- The calls that recorders received. -/
  calls : List (Call Engine)
  memories : List (String × Memory)
  queue : Bridge.Queue
  log : List Log.Entry
  deriving Repr

namespace Host

def new (settings : Settings) (notifier : Notifier) : Except Coordinator.StartFault Host :=
  match Coordinator.new settings with
  | .ok k => .ok ⟨k, notifier, [], [], .empty, []⟩
  | .error fault => .error fault

def write (entries : List Log.Entry) (host : Host) : Host :=
  { host with log := host.log ++ entries }

def record (call : Call Engine) (host : Host) : Host := { host with calls := host.calls ++ [call] }

/-- Changes the memory of a name, an empty one if the name is new. -/
def updateMemory (f : Memory → Memory) (name : String) :
    List (String × Memory) → List (String × Memory)
  | [] => [(name, f .empty)]
  | (other, memory) :: rest =>
    if other = name then (name, f memory) :: rest
    else (other, memory) :: updateMemory f name rest

def remember (f : Memory → Memory) (name : String) (host : Host) : Host :=
  { host with memories := updateMemory f name host.memories }

def clearMemory (name : String) (host : Host) : Host := host.remember (fun _ => .empty) name

/-- Passes a message over the bridge, with its entries in the log. -/
def pass (entries : List Log.Entry) (message : Bridge.Message) (host : Host) : Host :=
  { host.write entries with queue := host.queue.send message }

def statusEntry (event : StatusEvent) : Log.Entry :=
  { level := if event = .error then .warn else .info
    message := "Tunnel status"
    fields := [("status", event.name)] }

/-- Lets a session or the notifier receive a call. -/
def receive (call : Call Engine) (host : Host) : Host :=
  match call with
  | .command (.recorder _) _ => host.record call
  | .command (.mute _) (.setStatus _) => host
  | .command (.mute _) _ => host.record call
  | .command (.memory name) command => host.remember (Memory.record command) name
  | .command .bridge command =>
    host.pass (host.queue.commandEntries command) (.ofCommand command)
  | .notify event =>
    match host.notifier with
    | .recorder => host.record call
    | .bridge => host.pass (host.queue.warning (.notify event)) (.notify event)
    | .log => host.write [statusEntry event]

def absorb (host : Host) : Happening Engine → Host
  | .noted note => host.write [note.entry]
  | .called call => host.receive call
  | .emitted _ => host

/-- Whether a call goes to a recorder. Only there can anything come between. -/
def isRecorded (notifier : Notifier) : Call Engine → Bool
  | .command (.recorder _) _ => true
  | .command (.mute _) (.setStatus _) => false
  | .command (.mute _) _ => true
  | .command _ _ => false
  | .notify _ => notifier = .recorder

/-- What comes between at given points: changes, and a panic. -/
structure Disturbance where
  contending : Point → List Change
  panicsAt : Option Point

def Disturbance.none : Disturbance := ⟨fun _ => [], Option.none⟩

def Disturbance.interference (d : Disturbance) (notifier : Notifier) : Interference Engine where
  contending call := if isRecorded notifier call then d.contending call.point else []
  panics call := isRecorded notifier call && d.panicsAt = some call.point

/-- Takes over a coordinator and what happened to it. -/
def adopt (outcome : Outcome Engine) (host : Host) : Host :=
  outcome.trace.foldl absorb { host with coordinator := outcome.coordinator }

/-- A memory is there as soon as it is attached. -/
def provide (op : Operation Engine) (host : Host) : Host :=
  match op with
  | .attach (.memory name) => host.remember id name
  | _ => host

/-- Carries out an operation; says whether it panicked. -/
def operate (d : Disturbance) (op : Operation Engine) (host : Host) : Bool × Host :=
  let outcome := host.coordinator.operate (d.interference host.notifier) op
  (outcome.panicked, (host.provide op).adopt outcome)

/-- Carries out an operation with nothing in between. -/
def perform (op : Operation Engine) (host : Host) : Host := (host.operate .none op).2

def inspect (host : Host) : State Engine × Host :=
  (host.coordinator.inspect.1, host.adopt host.coordinator.inspect.2)

def drain (count : Option Nat) (host : Host) : List Coordinator.Event × Host :=
  ((host.coordinator.drain count).1,
    { host with coordinator := (host.coordinator.drain count).2 })

def closeEvents (host : Host) : Host :=
  { host with coordinator := host.coordinator.closeEvents }

/-- What has come together since the last time. -/
structure Harvest where
  calls : List (Call Engine)
  messages : List Bridge.Message
  log : List Log.Entry
  deriving Repr

def harvest (host : Host) : Harvest × Host :=
  (⟨host.calls, host.queue.messages, host.log⟩,
    { host with calls := [], queue := { host.queue with messages := [] }, log := [] })

/-- The writer of the bridge goes away. -/
def closeBridge (host : Host) : Host := { host with queue := host.queue.close }

end Host

end PathKeeper
