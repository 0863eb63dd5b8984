import PathKeeper.Proofs.Coordinator.Corrections
import PathKeeper.Proofs.Coordinator.Record
import PathKeeper.Proofs.Coordinator.Relabelling
import PathKeeper.Proofs.Host

/-!
# Sessions of different kinds

A session that keeps a record, one that remembers in memory and one on the bridge take part in the
same run: they are told the same, and the coordinator cannot tell them apart. What a host keeps of
the calls depends on nothing but the calls, so it is read off the run of the coordinator.
-/

namespace PathKeeper

set_option autoImplicit false

open Coordinator (Call Happening Operation Step after callsIn history)

/-! ## Memories -/

def Command.status? : Command → Option SessionStatus
  | .setStatus status => some status
  | _ => none

/-- What a memory holds after some commands. -/
def Memory.ofCommands (commands : List Command) : Memory :=
  ⟨commands.filterMap Command.servers?, commands.count .reconnect,
    commands.filterMap Command.status?⟩

theorem Memory.ofCommands_append (commands : List Command) (command : Command) :
    ofCommands (commands ++ [command]) = (ofCommands commands).record command := by
  cases command <;> simp [ofCommands, record, Command.servers?, Command.status?]

namespace Host

/-- What the memory of a name holds. -/
def memory (name : String) (host : Host) : Memory := (host.memories.lookup name).getD .empty

def take (step : Step Engine) (host : Host) : Host :=
  match step with
  | .operate op => host.perform op
  | .inspect => host.inspect.2
  | .drain count => (host.drain count).2
  | .closeEvents => host.closeEvents

def run (steps : List (Step Engine)) (host : Host) : Host :=
  steps.foldl (fun host step => host.take step) host

theorem coordinator_take (step : Step Engine) (host : Host) :
    (host.take step).coordinator = (step.move.outcome host.coordinator).coordinator := by
  cases step with
  | operate op =>
    rw [take, perform_eq]
    exact coordinator_adopt _ _
  | inspect => exact coordinator_adopt _ _
  | drain count => rfl
  | closeEvents => rfl

theorem notifier_take (step : Step Engine) (host : Host) :
    (host.take step).notifier = host.notifier := by
  cases step with
  | operate op =>
    rw [take, perform_eq]
    exact (notifier_adopt _ _).trans (provide_eq op host).2.1
  | inspect => exact notifier_adopt _ _
  | drain count => rfl
  | closeEvents => rfl

namespace IsKept

variable {β : Type} {notifier : Notifier} {part : Host → β} {keep : β → Call Engine → β}

theorem take (h : IsKept notifier part keep) (step : Step Engine) {host : Host}
    (hnotifier : host.notifier = notifier) :
    part (host.take step) =
      (callsIn (step.move.outcome host.coordinator).trace).foldl keep (part host) := by
  cases step with
  | operate op => exact h.perform op hnotifier
  | inspect => exact h.adopt _ hnotifier
  | drain count => exact h.coordinate _ host
  | closeEvents => exact h.coordinate _ host

theorem run (h : IsKept notifier part keep) (steps : List (Step Engine)) {host : Host}
    (hnotifier : host.notifier = notifier) :
    part (run steps host) =
      (callsIn (history (steps.map Step.move) host.coordinator)).foldl keep (part host) := by
  induction steps generalizing host with
  | nil => rfl
  | cons step rest ih =>
    have hrest := ih ((notifier_take step host).trans hnotifier)
    rw [h.take step hnotifier, coordinator_take] at hrest
    rw [List.map_cons, Coordinator.history_cons, Coordinator.callsIn_append, List.foldl_append]
    exact hrest

end IsKept

/-! ## What is kept -/

end Host

/-! ## One session after another -/

namespace Host

section Drive

variable {k : Coordinator Unit} (hlock : k.lock ≠ .held) (steps : List (Step Unit)) {host : Host}

include hlock

end Drive

/-- A host that has taken in the first `n` happenings of an operation. -/
def amid (n : Nat) (op : Operation Engine) (host : Host) : Host :=
  let outcome := host.coordinator.operate .none op
  (outcome.trace.take n).foldl absorb { host.provide op with coordinator := outcome.coordinator }

/-- Takes in what is left of an operation, which began with the coordinator `k`. -/
def conclude (n : Nat) (op : Operation Engine) (k : Coordinator Engine) (host : Host) : Host :=
  ((k.operate .none op).trace.drop n).foldl absorb host

/-- Before and after any point an operation is the same as without a stop. -/
theorem conclude_amid (n : Nat) (op : Operation Engine) (host : Host) :
    (host.amid n op).conclude n op host.coordinator = host.perform op := by
  rw [conclude, amid, ← List.foldl_append, List.take_append_drop, perform_eq]
  rfl

theorem new_eq {settings : Settings} {notifier : Notifier} {host : Host}
    (h : Host.new settings notifier = .ok host) :
    ∃ k, Coordinator.new settings = .ok k ∧ host = ⟨k, notifier, [], [], .empty, []⟩ := by
  unfold Host.new at h
  split at h
  · next k hk => exact ⟨k, hk, (Except.ok.inj h).symm⟩
  · cases h

section Fresh

variable {k : Coordinator Unit} {notifier : Notifier} {host : Host}

end Fresh

end Host

end PathKeeper
