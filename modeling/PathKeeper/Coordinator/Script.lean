import PathKeeper.Coordinator.Event
import PathKeeper.Coordinator.Note
import PathKeeper.Session.Command

/-!
# Scripts

What an operation does is decided by the policy and the state that it finds. The decision is a
script: notes, calls, events and writes of the state, in the order in which they happen. Running a
script, with everything that may come between, is another matter.
-/

namespace PathKeeper.Coordinator

set_option autoImplicit false

variable {σ : Type}

/-- What a coordinator remembers. Sessions are handles of type `σ`. -/
structure State (σ : Type) where
  status : SessionStatus
  session : Option σ
  last : Option Snapshot
  deriving DecidableEq, Repr

def State.initial : State σ := ⟨.down, none, none⟩

inductive Call (σ : Type) where
  | command (session : σ) (command : Command)
  | notify (event : StatusEvent)
  deriving DecidableEq, Repr

inductive Action (σ : Type) where
  | note (note : Note)
  | write (state : State σ)
  | call (call : Call σ)
  | emit (event : Event)
  deriving DecidableEq, Repr

inductive Operation (σ : Type) where
  /-- The platform reports a network. -/
  | change (change : Change)
  | attach (session : σ)
  | detach
  /-- The session has lost its transport. -/
  | loseTransport
  /-- The session has failed. -/
  | fail (reason : String)
  deriving DecidableEq, Repr

/-- The session, if there is one, is told a command. -/
def tell (session : Option σ) (command : Command) : List (Action σ) :=
  match session with
  | some s => [.call (.command s command)]
  | none => []

def announce (event : Option StatusEvent) : List (Action σ) :=
  match event with
  | some e => [.call (.notify e)]
  | none => []

/-- Moves to a status. The session and the user hear of it only if it is a new one. -/
def transition (state : State σ) (status : SessionStatus) (event : Option StatusEvent) :
    List (Action σ) :=
  if state.status = status then []
  else
    [.write { state with status := status }] ++ tell state.session (.setStatus status) ++
      [.note (.statusMoved state.status status), .emit (.statusChanged state.status status)] ++
      announce event

/-- Tells the session the resolvers of a snapshot if they are new. -/
def updateServers (session : σ) (last : Option Snapshot) (snapshot : Snapshot) :
    List (Action σ) :=
  if last.map (·.servers) = some snapshot.servers then []
  else
    [.note (.serversChanged snapshot.servers),
      .call (.command session (.setServers snapshot.servers)),
      .emit (.serversUpdated snapshot.servers)]

/-- Lets the session reconnect if the network is a new one. -/
def reconnectIfMoved (session : σ) (last : Option Snapshot) (snapshot : Snapshot) :
    List (Action σ) :=
  if last.map (·.identity) = some snapshot.identity then []
  else
    [.note (.networkChanged snapshot.identity), .call (.command session .reconnect),
      .emit (.reconnectRequested snapshot.identity)]

def remarkSame (last : Option Snapshot) (snapshot : Snapshot) : List (Action σ) :=
  if last = some snapshot then [.note (.nothingChanged snapshot.identity)] else []

/-- Applies a snapshot. It is committed at the very end. -/
def commit (state : State σ) (session : σ) (snapshot : Snapshot) : List (Action σ) :=
  transition state .up (some .connected) ++ updateServers session state.last snapshot ++
    reconnectIfMoved session state.last snapshot ++ remarkSame state.last snapshot ++
    [.emit (.snapshotCommitted snapshot), .write ⟨.up, some session, some snapshot⟩]

def onChange (policy : Policy) (state : State σ) (change : Change) : List (Action σ) :=
  match state.session with
  | none => [.note (.noSession change.identity), .emit (.sessionUnavailable change.identity)]
  | some session =>
    match Resolver.normalize policy change.resolvers with
    | .error fault =>
      [.note (.changeRejected change.identity fault),
        .emit (.updateRejected change.identity fault.failure.message)]
    | .ok servers =>
      ((Resolver.skipped policy change.resolvers).map fun fault => .note (.entrySkipped fault)) ++
        commit state session ⟨change.identity, servers⟩

/-- The new session takes the place of the old one, and nothing counts as told to it. -/
def onAttach (state : State σ) (session : σ) : List (Action σ) :=
  .write ⟨state.status, some session, none⟩ ::
    transition ⟨state.status, some session, none⟩ .connecting none ++
    [.note .attached, .emit .sessionAttached]

/-- The session still hears that it goes down. -/
def onDetach (state : State σ) : List (Action σ) :=
  (if state.session.isNone then [.note .nothingToDetach] else []) ++
    transition state .down (some .disconnected) ++
    [.write .initial, .note .detached, .emit .sessionDetached]

def onLoseTransport (state : State σ) : List (Action σ) :=
  if state.session.isNone then [.note .reconnectIgnored]
  else transition state .connecting (some .reconnecting)

def onFail (state : State σ) (reason : String) : List (Action σ) :=
  if state.session.isNone then [.note (.errorIgnored reason)]
  else .note (.errorReported reason) :: transition state .error (some .error)

/-- What an operation does in a state. -/
def script (policy : Policy) (state : State σ) : Operation σ → List (Action σ)
  | .change change => onChange policy state change
  | .attach session => onAttach state session
  | .detach => onDetach state
  | .loseTransport => onLoseTransport state
  | .fail reason => onFail state reason

end PathKeeper.Coordinator
