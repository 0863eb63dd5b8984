import PathKeeper.Proofs.Coordinator.Run

/-!
# What an operation tells the observer

If nothing panics, the events of an operation are determined by the state that it finds. An attached
session and a detached one are told of in any case; a change tells of exactly one outcome.
-/

namespace PathKeeper.Coordinator

set_option autoImplicit false

variable {σ : Type}

def statusEvents (before after : SessionStatus) : List Event :=
  if before = after then [] else [.statusChanged before after]

def correctionEvents (last : Option Snapshot) (next : Snapshot) : List Event :=
  (if last.map Snapshot.servers = some next.servers then [] else [.serversUpdated next.servers]) ++
    (if last.map Snapshot.identity = some next.identity then []
      else [.reconnectRequested next.identity])

/-- The events of an operation whose calls all return. -/
def eventsDue (policy : Policy) (state : State σ) : Operation σ → List Event
  | .change change =>
    if state.session.isNone then [.sessionUnavailable change.identity]
    else match Resolver.normalize policy change.resolvers with
      | .error fault => [.updateRejected change.identity fault.failure.message]
      | .ok servers =>
        statusEvents state.status .up ++ correctionEvents state.last ⟨change.identity, servers⟩ ++
          [.snapshotCommitted ⟨change.identity, servers⟩]
  | .attach _ => statusEvents state.status .connecting ++ [.sessionAttached]
  | .detach => statusEvents state.status .down ++ [.sessionDetached]
  | .loseTransport => if state.session.isNone then [] else statusEvents state.status .connecting
  | .fail _ => if state.session.isNone then [] else statusEvents state.status .error

@[simp] theorem eventsOf_tell (session : Option σ) (command : Command) :
    eventsOf (tell session command) = [] := by
  cases session <;> rfl

@[simp] theorem eventsOf_announce (event : Option StatusEvent) :
    eventsOf (announce event : List (Action σ)) = [] := by
  cases event <;> rfl

@[simp] theorem eventsOf_transition (state : State σ) (status : SessionStatus)
    (event : Option StatusEvent) :
    eventsOf (transition state status event) = statusEvents state.status status := by
  unfold transition statusEvents
  split
  · rfl
  · simp

theorem eventsOf_commitCalls (state : State σ) (session : σ) (snapshot : Snapshot) :
    eventsOf (commitCalls state session snapshot) = correctionEvents state.last snapshot := by
  unfold commitCalls updateServers reconnectIfMoved remarkSame correctionEvents
  split <;> split <;> split <;> rfl

theorem eventsOf_commit (state : State σ) (session : σ) (snapshot : Snapshot) :
    eventsOf (commit state session snapshot) =
      statusEvents state.status .up ++ correctionEvents state.last snapshot ++
        [.snapshotCommitted snapshot] := by
  rw [commit_eq, eventsOf_append, eventsOf_append, eventsOf_transition, eventsOf_commitCalls]
  rfl

theorem eventsOf_onChange (policy : Policy) (state : State σ) (change : Change) :
    eventsOf (onChange policy state change) = eventsDue policy state (.change change) := by
  cases hs : state.session with
  | none => simp [onChange, eventsDue, hs]
  | some session =>
    cases hok : Resolver.normalize policy change.resolvers with
    | error fault => simp [onChange, eventsDue, hs, hok]
    | ok servers =>
      simp only [onChange, eventsDue, hs, hok, Option.isNone_some, Bool.false_eq_true, if_false]
      rw [eventsOf_append, eventsOf_commit]
      exact congrArg (· ++ _) (eventsOf_skipNotes policy change)

theorem eventsOf_script (policy : Policy) (state : State σ) (op : Operation σ) :
    eventsOf (script policy state op) = eventsDue policy state op := by
  cases op with
  | change change => exact eventsOf_onChange policy state change
  | attach session => simp [script, onAttach, eventsDue]
  | detach =>
    simp only [script, onDetach, eventsDue]
    split <;> simp
  | loseTransport =>
    simp only [script, onLoseTransport, eventsDue]
    split <;> simp
  | fail reason =>
    simp only [script, onFail, eventsDue]
    split <;> simp

section Change

variable {policy : Policy} {state : State σ} {change : Change}

theorem eventsDue_change_of_no_session (hs : state.session = none) :
    eventsDue policy state (.change change) = [.sessionUnavailable change.identity] := by
  simp [eventsDue, hs]

theorem eventsDue_change_of_discarded {session : σ} (hs : state.session = some session)
    (hc : change.snapshot? policy = none) :
    ∃ reason, eventsDue policy state (.change change) =
      [.updateRejected change.identity reason] := by
  obtain ⟨fault, hfault⟩ := Change.normalize_of_snapshot?_eq_none hc
  exact ⟨fault.failure.message, by simp [eventsDue, hs, hfault]⟩

theorem eventsDue_change_of_snapshot {session : σ} {snapshot : Snapshot}
    (hs : state.session = some session) (hc : change.snapshot? policy = some snapshot) :
    eventsDue policy state (.change change) =
      statusEvents state.status .up ++ correctionEvents state.last snapshot ++
        [.snapshotCommitted snapshot] := by
  obtain ⟨hok, hsnapshot⟩ := Change.normalize_of_snapshot? hc
  rw [hsnapshot]
  simp [eventsDue, hs, hok]

end Change

theorem eventsIn_operate_of_returns {k : Coordinator σ} (h : k.lock ≠ .held) {i : Interference σ}
    {op : Operation σ} (hreturns : (k.operate i op).panicked = false) :
    eventsIn (k.operate i op).trace = eventsDue k.policy k.state op := by
  rw [panicked_operate h] at hreturns
  rw [eventsIn_operate h, carriedOut_of_not_isCut hreturns, eventsOf_script]

namespace Move

def eventsDue (policy : Policy) (state : State σ) : Move σ → List Event
  | .operate op _ => Coordinator.eventsDue policy state op
  | _ => []

theorem eventsIn_outcome_of_isCalm {k : Coordinator σ} (h : k.lock ≠ .held) {move : Move σ}
    (hcalm : move.IsCalm) :
    eventsIn (move.outcome k).trace = move.eventsDue k.policy k.state := by
  cases move with
  | operate op i => exact eventsIn_operate_of_returns h (panicked_operate_of_isCalm h hcalm op)
  | inspect =>
    rw [trace_outcome_inspect]
    exact eventsIn_recovery k
  | drain count => rfl
  | closeEvents => rfl

end Move

end PathKeeper.Coordinator
