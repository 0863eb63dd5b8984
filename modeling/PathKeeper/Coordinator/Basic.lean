import PathKeeper.Coordinator.Script
import PathKeeper.Settings

/-!
# The coordinator

A coordinator runs the scripts of its operations one at a time. While a session or the notifier is
being called, other threads may deliver changes: those are refused, since an operation is under
way. The call may also panic, which ends the operation where it stands; the next operation goes on
with the state that is then in place.
-/

namespace PathKeeper

set_option autoImplicit false

namespace Coordinator

variable {σ : Type}

/-- Whether an operation is under way, and whether the last one was cut short. -/
inductive Lock where
  | free | held | poisoned
  deriving DecidableEq, Repr

end Coordinator

structure Coordinator (σ : Type) where
  policy : Policy
  channel : Coordinator.Channel
  state : Coordinator.State σ
  lock : Coordinator.Lock
  deriving Repr

namespace Coordinator

variable {σ : Type}

/-- What can be seen of an operation. -/
inductive Happening (σ : Type) where
  | noted (note : Note)
  | called (call : Call σ)
  /-- An event was offered to the channel. -/
  | emitted (event : Event)
  deriving DecidableEq, Repr

/-- What else goes on while a session or the notifier is being called. -/
structure Interference (σ : Type) where
  /-- The changes that are delivered meanwhile. -/
  contending : Call σ → List Change
  panics : Call σ → Bool

def Interference.none : Interference σ := ⟨fun _ => [], fun _ => false⟩

structure Outcome (σ : Type) where
  coordinator : Coordinator σ
  trace : List (Happening σ)
  panicked : Bool

def Outcome.after (earlier : List (Happening σ)) (outcome : Outcome σ) : Outcome σ :=
  { outcome with trace := earlier ++ outcome.trace }

/-- The largest capacity that a channel can have: 61 bits. -/
def largestCapacity : Nat := 2305843009213693951

inductive StartFault where
  | refused (failure : Failure)
  /-- The capacity exceeds what a channel can have. -/
  | overflow
  deriving DecidableEq, Repr

/-- A coordinator without a session. -/
def new (settings : Settings) : Except StartFault (Coordinator σ) :=
  match settings.validate with
  | .error failure => .error (.refused failure)
  | .ok () =>
    if largestCapacity < settings.eventCapacity then .error .overflow
    else .ok ⟨settings.policy, .new settings.eventCapacity, .initial, .free⟩

/-- Makes channels of the capacities that there are, and panics with any other. -/
structure MakesChannels (make : Nat → Option Channel) : Prop where
  panics_iff (capacity : Nat) : make capacity = none ↔ capacity = 0 ∨ largestCapacity < capacity
  is_new {capacity : Nat} {channel : Channel} : make capacity = some channel →
    channel = .new capacity

/-- Builds a coordinator on a channel that is made for it. -/
def newOn (make : Nat → Option Channel) (settings : Settings) :
    Except StartFault (Coordinator σ) :=
  match settings.validate with
  | .error failure => .error (.refused failure)
  | .ok () =>
    match make settings.eventCapacity with
    | none => .error .overflow
    | some channel => .ok ⟨settings.policy, channel, .initial, .free⟩

def emit (event : Event) (k : Coordinator σ) : Coordinator σ :=
  { k with channel := k.channel.offer event }

/-- What is seen of an event that is offered now. -/
def emission (event : Event) (k : Coordinator σ) : List (Happening σ) :=
  if k.channel.isFull then [.emitted event, .noted .eventLost] else [.emitted event]

/-- Refuses a change that comes while an operation is under way. -/
def refuse (change : Change) (k : Coordinator σ) : Outcome σ :=
  ⟨k.emit (.changeDropped change.identity),
    .noted (.busy change.identity) :: k.emission (.changeDropped change.identity), false⟩

def refuseAll : List Change → Coordinator σ → Outcome σ
  | [], k => ⟨k, [], false⟩
  | change :: changes, k =>
    let first := k.refuse change
    (refuseAll changes first.coordinator).after first.trace

@[simp] theorem state_emit (event : Event) (k : Coordinator σ) : (k.emit event).state = k.state :=
  rfl

@[simp] theorem lock_emit (event : Event) (k : Coordinator σ) : (k.emit event).lock = k.lock := rfl

@[simp] theorem policy_emit (event : Event) (k : Coordinator σ) :
    (k.emit event).policy = k.policy := rfl

@[simp] theorem refuseAll_nil (k : Coordinator σ) : k.refuseAll [] = ⟨k, [], false⟩ := rfl

/-- Refused changes leave the state alone. -/
@[simp] theorem state_refuseAll (changes : List Change) (k : Coordinator σ) :
    (k.refuseAll changes).coordinator.state = k.state := by
  induction changes generalizing k with
  | nil => rfl
  | cons change changes ih => exact ih (k.refuse change).coordinator

@[simp] theorem lock_refuseAll (changes : List Change) (k : Coordinator σ) :
    (k.refuseAll changes).coordinator.lock = k.lock := by
  induction changes generalizing k with
  | nil => rfl
  | cons change changes ih => exact ih (k.refuse change).coordinator

@[simp] theorem policy_refuseAll (changes : List Change) (k : Coordinator σ) :
    (k.refuseAll changes).coordinator.policy = k.policy := by
  induction changes generalizing k with
  | nil => rfl
  | cons change changes ih => exact ih (k.refuse change).coordinator

/-- Runs a script up to its end or to a call that panics. -/
def perform (i : Interference σ) : List (Action σ) → Coordinator σ → Outcome σ
  | [], k => ⟨k, [], false⟩
  | .note note :: rest, k => (perform i rest k).after [.noted note]
  | .write state :: rest, k => perform i rest { k with state := state }
  | .emit event :: rest, k => (perform i rest (k.emit event)).after (k.emission event)
  | .call call :: rest, k =>
    let crowd := k.refuseAll (i.contending call)
    if i.panics call then ⟨crowd.coordinator, .called call :: crowd.trace, true⟩
    else (perform i rest crowd.coordinator).after (.called call :: crowd.trace)

@[simp] theorem perform_nil (i : Interference σ) (k : Coordinator σ) :
    perform i [] k = ⟨k, [], false⟩ := rfl

/-- A script does not touch the lock. -/
theorem lock_perform (i : Interference σ) (actions : List (Action σ)) (k : Coordinator σ) :
    (perform i actions k).coordinator.lock = k.lock := by
  induction actions generalizing k with
  | nil => rfl
  | cons action rest ih =>
    cases action with
    | note note => exact ih k
    | write state => exact ih { k with state := state }
    | emit event => exact ih (k.emit event)
    | call call =>
      unfold perform
      split
      · exact lock_refuseAll _ k
      · exact (ih (k.refuseAll (i.contending call)).coordinator).trans (lock_refuseAll _ k)

/-- The policy is fixed. -/
theorem policy_perform (i : Interference σ) (actions : List (Action σ)) (k : Coordinator σ) :
    (perform i actions k).coordinator.policy = k.policy := by
  induction actions generalizing k with
  | nil => rfl
  | cons action rest ih =>
    cases action with
    | note note => exact ih k
    | write state => exact ih { k with state := state }
    | emit event => exact ih (k.emit event)
    | call call =>
      unfold perform
      split
      · exact policy_refuseAll _ k
      · exact (ih (k.refuseAll (i.contending call)).coordinator).trans (policy_refuseAll _ k)

/-- What is seen when the section is entered. -/
def recovery (k : Coordinator σ) : List (Happening σ) :=
  if k.lock = .poisoned then [.noted .recovered] else []

/-- Runs an operation inside the section, which is free to enter. -/
def exclusively (i : Interference σ) (op : Operation σ) (k : Coordinator σ) : Outcome σ :=
  let inside := perform i (script k.policy k.state op) { k with lock := .held }
  let lock := if inside.panicked then .poisoned else .free
  ⟨{ inside.coordinator with lock := lock }, k.recovery ++ inside.trace, inside.panicked⟩

/-- Carries out an operation. While another is under way, a change is refused, and any other
operation waits: nothing happens yet. -/
def operate (i : Interference σ) (op : Operation σ) (k : Coordinator σ) : Outcome σ :=
  match k.lock, op with
  | .held, .change change => k.refuse change
  | .held, _ => ⟨k, [], false⟩
  | _, op => k.exclusively i op

/-- The section is left again by every operation that enters it. -/
theorem lock_exclusively_ne_held (i : Interference σ) (op : Operation σ) (k : Coordinator σ) :
    (k.exclusively i op).coordinator.lock ≠ .held := by
  unfold exclusively
  dsimp only
  split <;> simp

def inspect (k : Coordinator σ) : State σ × Outcome σ :=
  match k.lock with
  | .poisoned => (k.state, ⟨{ k with lock := .free }, k.recovery, false⟩)
  | _ => (k.state, ⟨k, [], false⟩)

/-- Takes pending events, at most `count` if a number is given. -/
def drain (count : Option Nat) (k : Coordinator σ) : List Event × Coordinator σ :=
  ((k.channel.drain count).1, { k with channel := (k.channel.drain count).2 })

/-- The observer of events goes away. -/
def closeEvents (k : Coordinator σ) : Coordinator σ := { k with channel := k.channel.close }

end Coordinator

end PathKeeper
