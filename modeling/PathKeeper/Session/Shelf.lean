import PathKeeper.Session.Command

/-!
# Sessions in memory

A session that only remembers its commands. Several handles may share one memory: a shelf holds
the handles, in the order in which they were made, and the memories behind them.
-/

namespace PathKeeper

set_option autoImplicit false

/-- The commands that a session was given. -/
structure Memory where
  updates : List Servers
  reconnects : Nat
  statuses : List SessionStatus
  deriving DecidableEq, Repr

namespace Memory

def empty : Memory := ⟨[], 0, []⟩

def record (command : Command) (memory : Memory) : Memory :=
  match command with
  | .setServers servers => { memory with updates := memory.updates ++ [servers] }
  | .reconnect => { memory with reconnects := memory.reconnects + 1 }
  | .setStatus status => { memory with statuses := memory.statuses ++ [status] }

/-- The resolvers that were set last. -/
def servers? (memory : Memory) : Option Servers := memory.updates.getLast?

/-- The status that was set last; a session starts down. -/
def status (memory : Memory) : SessionStatus := memory.statuses.getLast?.getD .down

end Memory

/-- Handles and memories. Handle `i` belongs to the memory `handles[i]`. -/
structure Shelf where
  memories : List Memory
  handles : List Nat
  deriving DecidableEq, Repr

namespace Shelf

def single : Shelf := ⟨[.empty], [0]⟩

inductive Step where
  | command (command : Command)
  | clear
  /-- Makes another handle on the same memory. -/
  | share
  /-- Makes a handle on a fresh memory. -/
  | fresh
  deriving DecidableEq, Repr

/-- The memory that a handle belongs to. Handles are counted around the end of the list. -/
def group (shelf : Shelf) (handle : Nat) : Nat :=
  shelf.handles.getD (handle % shelf.handles.length) 0

def apply (step : Step) (handle : Nat) (shelf : Shelf) : Shelf :=
  let group := shelf.group handle
  match step with
  | .command command =>
    { shelf with memories := shelf.memories.modify group (Memory.record command) }
  | .clear => { shelf with memories := shelf.memories.set group .empty }
  | .share => { shelf with handles := shelf.handles ++ [group] }
  | .fresh => ⟨shelf.memories ++ [.empty], shelf.handles ++ [shelf.memories.length]⟩

def views (shelf : Shelf) : List Memory :=
  shelf.handles.map fun group => shelf.memories.getD group .empty

end Shelf

end PathKeeper
