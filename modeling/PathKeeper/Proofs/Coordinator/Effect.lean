import PathKeeper.Proofs.Coordinator.CutShort
import PathKeeper.Proofs.Normalized

/-!
# What operations do

The state that an operation leaves and the calls that it makes, first when all calls return and
then when one of them panics. An operation writes its new status before any call and everything
else after the last one, so a panic always leaves the new status with the old session and snapshot;
only an attachment is in place as a whole.
-/

namespace PathKeeper.Coordinator

set_option autoImplicit false

variable {σ : Type}

/-! ## Pieces of scripts -/

@[simp] theorem plain_tell (session : Option σ) (command : Command) :
    (tell session command).any Action.isWrite = false ∧
      (tell session command).any Action.isRefusal = false := by
  cases session <;> exact ⟨rfl, rfl⟩

@[simp] theorem plain_announce (event : Option StatusEvent) :
    (announce event : List (Action σ)).any Action.isWrite = false ∧
      (announce event : List (Action σ)).any Action.isRefusal = false := by
  cases event <;> exact ⟨rfl, rfl⟩

@[simp] theorem plain_updateServers (session : σ) (last : Option Snapshot) (snapshot : Snapshot) :
    (updateServers session last snapshot).any Action.isWrite = false ∧
      (updateServers session last snapshot).any Action.isRefusal = false := by
  unfold updateServers
  split <;> exact ⟨rfl, rfl⟩

@[simp] theorem plain_reconnectIfMoved (session : σ) (last : Option Snapshot)
    (snapshot : Snapshot) :
    (reconnectIfMoved session last snapshot).any Action.isWrite = false ∧
      (reconnectIfMoved session last snapshot).any Action.isRefusal = false := by
  unfold reconnectIfMoved
  split <;> exact ⟨rfl, rfl⟩

@[simp] theorem plain_remarkSame (last : Option Snapshot) (snapshot : Snapshot) :
    (remarkSame last snapshot : List (Action σ)).any Action.isWrite = false ∧
      (remarkSame last snapshot : List (Action σ)).any Action.isRefusal = false := by
  unfold remarkSame
  split <;> exact ⟨rfl, rfl⟩

@[simp] theorem any_isRefusal_transition (state : State σ) (status : SessionStatus)
    (event : Option StatusEvent) :
    (transition state status event).any Action.isRefusal = false := by
  unfold transition
  split
  · rfl
  · simp [Action.isRefusal]

theorem any_isRefusal_script (policy : Policy) (state : State σ) (op : Operation σ) :
    (script policy state op).any Action.isRefusal = false := by
  cases op with
  | change change =>
    simp only [script, onChange]
    split
    · rfl
    · split
      · rfl
      · simp [commit, Action.isRefusal]
  | attach session => simp [script, onAttach, Action.isRefusal]
  | detach =>
    simp only [script, onDetach]
    split <;> simp [Action.isRefusal]
  | loseTransport =>
    simp only [script, onLoseTransport]
    split <;> simp [Action.isRefusal]
  | fail reason =>
    simp only [script, onFail]
    split <;> simp [Action.isRefusal]

/-! ## Whole operations -/

/-- The calls by which a new status is reported. -/
def reports (session : Option σ) (before after : SessionStatus) (event : Option StatusEvent) :
    List (Call σ) :=
  if before = after then []
  else
    (session.map fun s => .command s (.setStatus after)).toList ++ (event.map .notify).toList

/-- The commands that bring a session from one snapshot to the next. -/
def corrections (last : Option Snapshot) (next : Snapshot) : List Command :=
  (if last.map Snapshot.servers = some next.servers then [] else [.setServers next.servers]) ++
    (if last.map Snapshot.identity = some next.identity then [] else [.reconnect])

/-- The state after an operation whose calls all return. -/
def State.next (policy : Policy) (state : State σ) : Operation σ → State σ
  | .change change =>
    match state.session, change.snapshot? policy with
    | some session, some snapshot => ⟨.up, some session, some snapshot⟩
    | _, _ => state
  | .attach session => ⟨.connecting, some session, none⟩
  | .detach => .initial
  | .loseTransport => if state.session.isNone then state else { state with status := .connecting }
  | .fail _ => if state.session.isNone then state else { state with status := .error }

/-- The state after an operation with a call that panics. -/
def State.cut (state : State σ) : Operation σ → State σ
  | .change _ => { state with status := .up }
  | .attach session => ⟨.connecting, some session, none⟩
  | .detach => { state with status := .down }
  | .loseTransport => { state with status := .connecting }
  | .fail _ => { state with status := .error }

/-- The calls of an operation that all return. -/
def callsDue (policy : Policy) (state : State σ) : Operation σ → List (Call σ)
  | .change change =>
    match state.session, change.snapshot? policy with
    | some session, some snapshot =>
      reports state.session state.status .up (some .connected) ++
        (corrections state.last snapshot).map (.command session)
    | _, _ => []
  | .attach session => reports (some session) state.status .connecting none
  | .detach => reports state.session state.status .down (some .disconnected)
  | .loseTransport =>
    if state.session.isNone then []
    else reports state.session state.status .connecting (some .reconnecting)
  | .fail _ =>
    if state.session.isNone then []
    else reports state.session state.status .error (some .error)

@[simp] theorem callsOf_transition (state : State σ) (status : SessionStatus)
    (event : Option StatusEvent) :
    callsOf (transition state status event) = reports state.session state.status status event := by
  unfold transition reports
  split
  · rfl
  · cases state.session <;> cases event <;> rfl

theorem callsOf_update (session : σ) (last : Option Snapshot) (snapshot : Snapshot) :
    callsOf (updateServers session last snapshot ++ reconnectIfMoved session last snapshot) =
      (corrections last snapshot).map (.command session) := by
  unfold updateServers reconnectIfMoved corrections
  split <;> split <;> rfl

@[simp] theorem callsOf_remarkSame (last : Option Snapshot) (snapshot : Snapshot) :
    callsOf (remarkSame last snapshot : List (Action σ)) = [] := by
  unfold remarkSame
  split <;> rfl

/-- A transition takes effect before anything else can happen: whatever is carried out of it and of
what comes behind, the status is the new one. -/
theorem settled_carriedOut_transition (i : Interference σ) (state : State σ)
    (status : SessionStatus) (event : Option StatusEvent) {rest : List (Action σ)}
    (hrest : rest.any Action.isWrite = false) :
    settled state (carriedOut i (transition state status event ++ rest)) =
      { state with status := status } := by
  unfold transition
  split
  · next hsame =>
    rw [List.nil_append, settled_carriedOut_of_no_write hrest, ← hsame]
  · simp only [List.cons_append, List.nil_append, List.append_assoc, carriedOut, Action.panics]
    apply settled_carriedOut_of_no_write
    simp [Action.isWrite, hrest]

theorem settled_carriedOut_transition_alone (i : Interference σ) (state : State σ)
    (status : SessionStatus) (event : Option StatusEvent) :
    settled state (carriedOut i (transition state status event)) =
      { state with status := status } := by
  have h := settled_carriedOut_transition i state status event List.any_nil
  rwa [List.append_nil] at h

@[simp] theorem settled_transition (state : State σ) (status : SessionStatus)
    (event : Option StatusEvent) :
    settled state (transition state status event) = { state with status := status } := by
  have h := settled_carriedOut_transition_alone .none state status event
  rwa [carriedOut_none] at h

def skipNotes (policy : Policy) (change : Change) : List (Action σ) :=
  (Resolver.skipped policy change.resolvers).map fun fault => .note (.entrySkipped fault)

@[simp] theorem callsOf_skipNotes (policy : Policy) (change : Change) :
    callsOf (skipNotes policy change : List (Action σ)) = [] := by
  simp [skipNotes, callsOf, List.filterMap_map, Function.comp_def]

@[simp] theorem plain_skipNotes (policy : Policy) (change : Change) :
    (skipNotes policy change : List (Action σ)).any Action.isWrite = false ∧
      (skipNotes policy change : List (Action σ)).any Action.isRefusal = false := by
  simp [skipNotes, Action.isWrite, Action.isRefusal]

@[simp] theorem isCut_skipNotes (i : Interference σ) (policy : Policy) (change : Change) :
    isCut i (skipNotes policy change) = false := by
  simp [skipNotes, isCut, Action.panics]

theorem script_change_of_snapshot {policy : Policy} {state : State σ} {change : Change}
    {session : σ} {snapshot : Snapshot} (hs : state.session = some session)
    (hc : change.snapshot? policy = some snapshot) :
    script policy state (.change change) =
      skipNotes policy change ++ commit state session snapshot := by
  obtain ⟨hok, hsnapshot⟩ := Change.normalize_of_snapshot? hc
  rw [hsnapshot]
  simp only [script, onChange, hs, hok, skipNotes]

theorem settled_script (policy : Policy) (state : State σ) (op : Operation σ) :
    settled state (script policy state op) = state.next policy op := by
  cases op with
  | change change =>
    cases hs : state.session with
    | none => simp [script, onChange, State.next, hs]
    | some session =>
      cases hc : change.snapshot? policy with
      | none =>
        obtain ⟨fault, hfault⟩ := Change.normalize_of_snapshot?_eq_none hc
        simp [script, onChange, State.next, hs, hfault, hc]
      | some snapshot =>
        rw [script_change_of_snapshot hs hc]
        simp [commit, State.next, hs, hc]
  | attach session => simp [script, onAttach, State.next]
  | detach => simp [script, onDetach, State.next]
  | loseTransport =>
    simp only [script, onLoseTransport, State.next]
    split <;> simp
  | fail reason =>
    simp only [script, onFail, State.next]
    split <;> simp

theorem callsOf_script (policy : Policy) (state : State σ) (op : Operation σ) :
    callsOf (script policy state op) = callsDue policy state op := by
  cases op with
  | change change =>
    cases hs : state.session with
    | none => simp [script, onChange, callsDue, hs]
    | some session =>
      cases hc : change.snapshot? policy with
      | none =>
        obtain ⟨fault, hfault⟩ := Change.normalize_of_snapshot?_eq_none hc
        simp [script, onChange, callsDue, hs, hfault, hc]
      | some snapshot =>
        rw [script_change_of_snapshot hs hc]
        have hupdate := callsOf_update session state.last snapshot
        rw [callsOf_append] at hupdate
        simp [commit, callsDue, hs, hc, hupdate]
  | attach session => simp [script, onAttach, callsDue]
  | detach =>
    simp only [script, onDetach, callsDue]
    split <;> simp
  | loseTransport =>
    simp only [script, onLoseTransport, callsDue]
    split <;> simp
  | fail reason =>
    simp only [script, onFail, callsDue]
    split <;> simp

/-! ## Operations with a panic -/

/-- The part of a commitment that a panic can end. -/
def commitCalls (state : State σ) (session : σ) (snapshot : Snapshot) : List (Action σ) :=
  updateServers session state.last snapshot ++ reconnectIfMoved session state.last snapshot ++
    remarkSame state.last snapshot

theorem commit_eq (state : State σ) (session : σ) (snapshot : Snapshot) :
    commit state session snapshot =
      (transition state .up (some .connected) ++ commitCalls state session snapshot) ++
        [.emit (.snapshotCommitted snapshot), .write ⟨.up, some session, some snapshot⟩] := by
  simp [commit, commitCalls]

theorem carriedOut_commit_of_isCut {i : Interference σ} {state : State σ} {session : σ}
    {snapshot : Snapshot} (h : isCut i (commit state session snapshot) = true) :
    carriedOut i (commit state session snapshot) =
      carriedOut i
        (transition state .up (some .connected) ++ commitCalls state session snapshot) := by
  rw [commit_eq] at h ⊢
  apply carriedOut_append_of_isCut
  simpa using h

/-- A panic leaves the new status with what was there before. -/
theorem settled_carriedOut_of_isCut {i : Interference σ} {policy : Policy} {state : State σ}
    {op : Operation σ} (h : isCut i (script policy state op) = true) :
    settled state (carriedOut i (script policy state op)) = state.cut op := by
  cases op with
  | change change =>
    cases hs : state.session with
    | none => simp [script, onChange, hs] at h
    | some session =>
      cases hc : change.snapshot? policy with
      | none =>
        obtain ⟨fault, hfault⟩ := Change.normalize_of_snapshot?_eq_none hc
        simp [script, onChange, hs, hfault] at h
      | some snapshot =>
        rw [script_change_of_snapshot hs hc] at h ⊢
        rw [isCut_append, isCut_skipNotes, Bool.false_or] at h
        rw [carriedOut_append_of_not_isCut (isCut_skipNotes i policy change), settled_append,
          settled_of_no_write (plain_skipNotes policy change).1, carriedOut_commit_of_isCut h]
        apply settled_carriedOut_transition
        simp [commitCalls]
  | attach session =>
    change settled ⟨state.status, some session, none⟩
      (carriedOut i (transition _ .connecting none ++
        [.note .attached, .emit .sessionAttached])) = _
    exact settled_carriedOut_transition i _ .connecting none rfl
  | detach =>
    simp only [script, onDetach, List.append_assoc] at h ⊢
    generalize hfront : (if state.session.isNone then [Action.note Note.nothingToDetach] else []) =
      front at h ⊢
    have hreturns : isCut i front = false := by
      subst hfront
      split <;> rfl
    have hplain : front.any Action.isWrite = false := by
      subst hfront
      split <;> rfl
    have hcut : isCut i (transition state .down (some .disconnected)) = true := by
      simpa [hreturns] using h
    rw [carriedOut_append_of_not_isCut hreturns, settled_append, settled_of_no_write hplain,
      carriedOut_append_of_isCut hcut]
    exact settled_carriedOut_transition_alone i state .down (some .disconnected)
  | loseTransport =>
    simp only [script, onLoseTransport] at h ⊢
    split
    · next hnone => simp [hnone] at h
    · exact settled_carriedOut_transition_alone i state .connecting (some .reconnecting)
  | fail reason =>
    simp only [script, onFail] at h ⊢
    split
    · next hnone => simp [hnone] at h
    · exact settled_carriedOut_transition_alone i state .error (some .error)

/-! ## Commitments -/

theorem not_mem_eventsOf_transition (snapshot : Snapshot) (state : State σ)
    (status : SessionStatus) (event : Option StatusEvent) :
    .snapshotCommitted snapshot ∉ eventsOf (transition state status event) := by
  unfold transition
  split
  · simp
  · cases state.session <;> cases event <;> simp [tell, announce]

theorem not_mem_eventsOf_commitCalls (snapshot : Snapshot) (state : State σ) (session : σ)
    (next : Snapshot) :
    .snapshotCommitted snapshot ∉ eventsOf (commitCalls state session next) := by
  unfold commitCalls updateServers reconnectIfMoved remarkSame
  split <;> split <;> split <;> simp

@[simp] theorem eventsOf_skipNotes (policy : Policy) (change : Change) :
    eventsOf (skipNotes policy change : List (Action σ)) = [] := by
  simp [skipNotes, eventsOf, List.filterMap_map, Function.comp_def]

theorem not_mem_eventsOf_before_commitment (snapshot : Snapshot) (state : State σ) (session : σ)
    (next : Snapshot) :
    .snapshotCommitted snapshot ∉
      eventsOf (transition state .up (some .connected) ++ commitCalls state session next) := by
  rw [eventsOf_append, List.mem_append, not_or]
  exact ⟨not_mem_eventsOf_transition snapshot state .up (some .connected),
    not_mem_eventsOf_commitCalls snapshot state session next⟩

theorem mem_eventsOf_carriedOut {i : Interference σ} {actions : List (Action σ)} {event : Event}
    (h : event ∈ eventsOf (carriedOut i actions)) : event ∈ eventsOf actions :=
  ((carriedOut_isPrefix i actions).filterMap Action.event?).subset h

/-- A commitment is told by nothing but a change that is carried out to its end. -/
theorem committed_of_mem {i : Interference σ} {policy : Policy} {state : State σ}
    {op : Operation σ} {snapshot : Snapshot}
    (h : .snapshotCommitted snapshot ∈ eventsOf (carriedOut i (script policy state op))) :
    isCut i (script policy state op) = false ∧
      ∃ change session, op = .change change ∧ state.session = some session ∧
        change.snapshot? policy = some snapshot := by
  have hmem := mem_eventsOf_carriedOut h
  cases op with
  | change change =>
    cases hs : state.session with
    | none => simp [script, onChange, hs] at hmem
    | some session =>
      cases hc : change.snapshot? policy with
      | none =>
        obtain ⟨fault, hfault⟩ := Change.normalize_of_snapshot?_eq_none hc
        simp [script, onChange, hs, hfault] at hmem
      | some next =>
        have hbefore := not_mem_eventsOf_before_commitment snapshot state session next
        rw [script_change_of_snapshot hs hc] at h hmem ⊢
        constructor
        · rw [isCut_append, isCut_skipNotes, Bool.false_or, Bool.eq_false_iff]
          intro hcut
          rw [carriedOut_append_of_not_isCut (isCut_skipNotes i policy change), eventsOf_append,
            eventsOf_skipNotes, List.nil_append, carriedOut_commit_of_isCut hcut] at h
          exact hbefore (mem_eventsOf_carriedOut h)
        · rw [eventsOf_append, eventsOf_skipNotes, List.nil_append, commit_eq, eventsOf_append,
            List.mem_append] at hmem
          have hnext : snapshot = next := by simpa using hmem.resolve_left hbefore
          exact ⟨change, session, rfl, rfl, by rw [hc, hnext]⟩
  | attach session =>
    have hno := not_mem_eventsOf_transition snapshot ⟨state.status, some session, none⟩
      .connecting none
    simp [script, onAttach, hno] at hmem
  | detach =>
    have hno := not_mem_eventsOf_transition snapshot state .down (some .disconnected)
    simp only [script, onDetach] at hmem
    split at hmem <;> simp [hno] at hmem
  | loseTransport =>
    have hno := not_mem_eventsOf_transition snapshot state .connecting (some .reconnecting)
    simp only [script, onLoseTransport] at hmem
    split at hmem <;> simp [hno] at hmem
  | fail reason =>
    have hno := not_mem_eventsOf_transition snapshot state .error (some .error)
    simp only [script, onFail] at hmem
    split at hmem <;> simp [hno] at hmem

end PathKeeper.Coordinator
