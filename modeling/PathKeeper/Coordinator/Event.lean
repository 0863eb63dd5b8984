import PathKeeper.Network
import PathKeeper.Status

/-!
# Events and their channel

A coordinator tells an observer what it did. Events wait in a channel of fixed capacity; what does
not fit is lost, and nothing is kept once the observer is gone.
-/

namespace PathKeeper.Coordinator

set_option autoImplicit false

inductive Event where
  /-- The change came while an operation was under way. -/
  | changeDropped (identity : Identity)
  | sessionUnavailable (identity : Identity)
  | updateRejected (identity : Identity) (reason : String)
  | statusChanged (before after : SessionStatus)
  | serversUpdated (servers : Servers)
  | reconnectRequested (identity : Identity)
  | snapshotCommitted (snapshot : Snapshot)
  | sessionAttached
  | sessionDetached
  deriving DecidableEq, Repr

structure Channel where
  capacity : Nat
  pending : List Event
  isOpen : Bool
  deriving DecidableEq, Repr

namespace Channel

def new (capacity : Nat) : Channel := ⟨capacity, [], true⟩

/-- Whether an event that is offered now is lost for want of room. -/
def isFull (channel : Channel) : Bool :=
  channel.isOpen && channel.capacity ≤ channel.pending.length

def offer (event : Event) (channel : Channel) : Channel :=
  if channel.isOpen && !channel.isFull then { channel with pending := channel.pending ++ [event] }
  else channel

/-- Takes at most `count` events, or all. -/
def drain (count : Option Nat) (channel : Channel) : List Event × Channel :=
  match count with
  | some n => (channel.pending.take n, { channel with pending := channel.pending.drop n })
  | none => (channel.pending, { channel with pending := [] })

def close (channel : Channel) : Channel := { channel with pending := [], isOpen := false }

@[simp] theorem capacity_offer (event : Event) (channel : Channel) :
    (channel.offer event).capacity = channel.capacity := by
  unfold offer
  split <;> rfl

@[simp] theorem isOpen_offer (event : Event) (channel : Channel) :
    (channel.offer event).isOpen = channel.isOpen := by
  unfold offer
  split <;> rfl

end Channel

end PathKeeper.Coordinator
