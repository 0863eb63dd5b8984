import PathKeeper.Proofs.Coordinator.Events
import PathKeeper.Proofs.Coordinator.Lifecycle
import PathKeeper.Proofs.Coordinator.Linearization
import PathKeeper.Proofs.Coordinator.Observer

/-!
# The record of events

Without a panic, and with no event lost, the events tell everything: the status, whether there is a
session, the last snapshot, and what sessions were told, call by call. Each change of the status is
told with the status that was told before.
-/

namespace PathKeeper.Coordinator

set_option autoImplicit false

variable {σ : Type}

/-! ## Events of an interleaving -/

def eventsThrough (policy : Policy) : State σ → List (Move σ) → List Event
  | _, [] => []
  | state, move :: rest =>
    move.eventsDue policy state ++ eventsThrough policy (move.next policy state) rest

theorem eventsThrough_append (policy : Policy) (state : State σ) (front back : List (Move σ)) :
    eventsThrough policy state (front ++ back) =
      eventsThrough policy state front ++
        eventsThrough policy (stateAfter policy state front) back := by
  induction front generalizing state with
  | nil => rfl
  | cons move front ih =>
    rw [List.cons_append, eventsThrough, ih, eventsThrough, List.append_assoc, stateAfter_cons]

theorem eventsIn_refuse (change : Change) (k : Coordinator σ) :
    eventsIn (k.refuse change).trace = [] := by
  simp only [refuse, emission]
  split <;> rfl

/-- The events of an operation are due as soon as it enters. -/
theorem Scene.IsSound.events_step {scene : Scene σ} (h : scene.IsSound) {turn : Turn σ}
    (hcalm : turn ≠ .panic) :
    eventsIn (turn.step scene).2 ++ eventsOf (turn.step scene).1.pending =
      eventsOf scene.pending ++
        eventsThrough scene.coordinator.policy scene.promised (turn.entering scene) := by
  have hcomes := h.comes turn
  generalize turn.step scene = next at hcomes
  cases hcomes with
  | refused hvisit =>
    rw [Turn.entering_of_visit hvisit, pending_of_visit hvisit, eventsIn_refuse]
    exact (List.append_nil _).symm
  | waits hvisit herrand =>
    rw [Turn.entering_of_visit hvisit]
    exact (List.append_nil _).symm
  | @enters errand hvisit =>
    rw [promised, pending_of_none hvisit, eventsIn_recovery]
    cases errand with
    | look => rfl
    | operate op =>
      rw [Turn.entering_operate hvisit]
      exact (eventsOf_script _ _ op).trans (List.append_nil _).symm
  | @acts errand action rest calling hvisit =>
    have hrest := h.no_refusal
    rw [pending_of_visit hvisit, List.any_cons, Bool.or_eq_false_iff] at hrest
    rw [Turn.entering_of_ne (by simp), pending_of_visit hvisit,
      eventsIn_perform .none (by simp [hrest.1]), carriedOut_none]
    exact (eventsOf_append [action] rest).symm.trans (List.append_nil _).symm
  | leaves hvisit =>
    rw [Turn.entering_of_visit hvisit, pending_of_visit hvisit]
    rfl
  | panics hvisit => exact absurd rfl hcalm
  | passes hturn channel =>
    rw [Turn.entering_of_ne hturn]
    exact (List.append_nil _).symm

theorem Scene.IsSound.events_sceneAfter {scene : Scene σ} (h : scene.IsSound)
    {turns : List (Turn σ)} (hcalm : .panic ∉ turns) :
    eventsIn (traceOf turns scene) ++ eventsOf (sceneAfter turns scene).pending =
      eventsOf scene.pending ++
        eventsThrough scene.coordinator.policy scene.promised (entered turns scene) :=
  Scene.IsSound.balance (fun turns scene => eventsIn (traceOf turns scene))
    (fun scene => eventsOf scene.pending) eventsThrough (fun _ => rfl) (fun _ _ => rfl)
    (fun turn rest scene => by simp [traceOf]) eventsThrough_append
    (fun scene turn hsound hturn => by simpa [traceOf] using hsound.events_step hturn) h hcalm

/-- Whether an event is told by an operation of itself. -/
def Event.isOwn : Event → Bool
  | .changeDropped _ => false
  | _ => true

theorem eventsIn_eq_filter (trace : List (Happening σ)) :
    eventsIn trace = (emittedIn trace).filter Event.isOwn := by
  induction trace with
  | nil => rfl
  | cons happening rest ih =>
    cases happening with
    | noted note => exact ih
    | called call => exact ih
    | emitted event => cases event <;> first | exact ih | exact congrArg (_ :: ·) ih

/-! ## What the events show -/

/-- What an observer can tell of a coordinator. -/
structure Picture where
  status : SessionStatus
  hasSession : Bool
  last : Option Snapshot
  deriving DecidableEq, Repr

namespace Picture

def initial : Picture := ⟨.down, false, none⟩

def amend (event : Event) (picture : Picture) : Picture :=
  match event with
  | .statusChanged _ status => { picture with status := status }
  | .snapshotCommitted snapshot => { picture with last := some snapshot }
  | .sessionAttached => { picture with hasSession := true, last := none }
  | .sessionDetached => { picture with hasSession := false, last := none }
  | _ => picture

def after (events : List Event) (picture : Picture) : Picture :=
  events.foldl (fun picture event => picture.amend event) picture

/-- Whether an event, if it tells of a new status, names the one before. -/
def Fits (picture : Picture) : Event → Prop
  | .statusChanged old new => old = picture.status ∧ old ≠ new
  | _ => True

def FitsAll : Picture → List Event → Prop
  | _, [] => True
  | picture, event :: rest => picture.Fits event ∧ FitsAll (picture.amend event) rest

@[simp] theorem after_nil (picture : Picture) : picture.after [] = picture := rfl

@[simp] theorem after_cons (event : Event) (rest : List Event) (picture : Picture) :
    picture.after (event :: rest) = (picture.amend event).after rest := rfl

theorem after_append (front back : List Event) (picture : Picture) :
    picture.after (front ++ back) = (picture.after front).after back := List.foldl_append

theorem fitsAll_append {front back : List Event} {picture : Picture} :
    picture.FitsAll (front ++ back) ↔
      picture.FitsAll front ∧ (picture.after front).FitsAll back := by
  induction front generalizing picture with
  | nil => exact ⟨fun h => ⟨trivial, h⟩, And.right⟩
  | cons event rest ih =>
    rw [List.cons_append, FitsAll, FitsAll, ih, and_assoc]
    rfl

theorem eq_of_fitsAll {picture : Picture} {front back : List Event} {old new : SessionStatus}
    (h : picture.FitsAll (front ++ .statusChanged old new :: back)) :
    old = (picture.after front).status ∧ old ≠ new := (fitsAll_append.mp h).2.1

theorem after_statusEvents (picture : Picture) (status : SessionStatus) :
    picture.after (statusEvents picture.status status) = { picture with status := status } := by
  unfold statusEvents
  split
  · next hsame => rw [← hsame, after_nil]
  · rfl

theorem fitsAll_statusEvents (picture : Picture) (status : SessionStatus) :
    picture.FitsAll (statusEvents picture.status status) := by
  unfold statusEvents
  split
  · trivial
  · next hother => exact ⟨⟨rfl, hother⟩, trivial⟩

theorem after_correctionEvents (picture : Picture) (last : Option Snapshot) (next : Snapshot) :
    picture.after (correctionEvents last next) = picture := by
  unfold correctionEvents
  split <;> split <;> rfl

theorem fitsAll_correctionEvents (picture : Picture) (last : Option Snapshot) (next : Snapshot) :
    picture.FitsAll (correctionEvents last next) := by
  unfold correctionEvents
  split <;> split <;> simp [FitsAll, Fits]

theorem after_ownEvents (events : List Event) (picture : Picture) :
    picture.after (events.filter Event.isOwn) = picture.after events := by
  induction events generalizing picture with
  | nil => rfl
  | cons event rest ih => cases event <;> exact ih _

theorem fitsAll_ownEvents {events : List Event} {picture : Picture} :
    picture.FitsAll (events.filter Event.isOwn) ↔ picture.FitsAll events := by
  induction events generalizing picture with
  | nil => exact Iff.rfl
  | cons event rest ih =>
    cases event with
    | changeDropped identity => exact ih.trans ⟨fun h => ⟨trivial, h⟩, And.right⟩
    | _ => exact and_congr_right fun _ => ih

end Picture

def State.picture (state : State σ) : Picture := ⟨state.status, state.session.isSome, state.last⟩

theorem Picture.after_eventsDue (policy : Policy) (state : State σ) (op : Operation σ) :
    state.picture.after (eventsDue policy state op) = (state.next policy op).picture ∧
      state.picture.FitsAll (eventsDue policy state op) := by
  have hstatus : ∀ status, state.picture.after (statusEvents state.status status) =
      { state.picture with status := status } := after_statusEvents state.picture
  have hfits : ∀ status, state.picture.FitsAll (statusEvents state.status status) :=
    fitsAll_statusEvents state.picture
  cases op with
  | change change =>
    cases hs : state.session with
    | none =>
      rw [eventsDue_change_of_no_session hs]
      simp [State.next, hs, amend, FitsAll, Fits]
    | some session =>
      cases hc : change.snapshot? policy with
      | none =>
        obtain ⟨reason, hevents⟩ := eventsDue_change_of_discarded hs hc
        rw [hevents]
        simp [State.next, hc, amend, FitsAll, Fits]
      | some snapshot =>
        rw [eventsDue_change_of_snapshot hs hc, after_append, after_append, fitsAll_append,
          fitsAll_append, after_append, hstatus .up, after_correctionEvents]
        refine ⟨?_, ⟨hfits .up, fitsAll_correctionEvents _ _ _⟩, trivial, trivial⟩
        simp [State.next, hs, hc, State.picture, amend]
  | attach session =>
    rw [eventsDue, after_append, fitsAll_append, hstatus .connecting]
    exact ⟨rfl, hfits .connecting, trivial, trivial⟩
  | detach =>
    rw [eventsDue, after_append, fitsAll_append, hstatus .down]
    exact ⟨rfl, hfits .down, trivial, trivial⟩
  | loseTransport =>
    rw [eventsDue, State.next]
    split
    · exact ⟨rfl, trivial⟩
    · exact ⟨hstatus .connecting, hfits .connecting⟩
  | fail reason =>
    rw [eventsDue, State.next]
    split
    · exact ⟨rfl, trivial⟩
    · exact ⟨hstatus .error, hfits .error⟩

theorem Picture.after_eventsThrough (policy : Policy) (state : State σ) (moves : List (Move σ)) :
    state.picture.after (eventsThrough policy state moves) =
        (stateAfter policy state moves).picture ∧
      state.picture.FitsAll (eventsThrough policy state moves) := by
  induction moves generalizing state with
  | nil => exact ⟨rfl, trivial⟩
  | cons move rest ih =>
    have hmove : state.picture.after (move.eventsDue policy state) =
          (move.next policy state).picture ∧
        state.picture.FitsAll (move.eventsDue policy state) := by
      cases move with
      | operate op i => exact after_eventsDue policy state op
      | inspect => exact ⟨rfl, trivial⟩
      | drain count => exact ⟨rfl, trivial⟩
      | closeEvents => exact ⟨rfl, trivial⟩
    obtain ⟨hrest, hfits⟩ := ih (move.next policy state)
    rw [eventsThrough, after_append, fitsAll_append, hmove.1, stateAfter_cons]
    exact ⟨hrest, hmove.2, hfits⟩

/-! ## What sessions were told -/

def Call.command? : Call σ → Option Command
  | .command _ told => some told
  | .notify _ => none

def commandsIn (trace : List (Happening σ)) : List Command :=
  (callsIn trace).filterMap Call.command?

/-- The command that an event tells of. -/
def Event.command? : Event → Option Command
  | .statusChanged _ status => some (.setStatus status)
  | .serversUpdated servers => some (.setServers servers)
  | .reconnectRequested _ => some .reconnect
  | _ => none

theorem command?_statusEvents (session : σ) (before after : SessionStatus)
    (event : Option StatusEvent) :
    (statusEvents before after).filterMap Event.command? =
      (reports (some session) before after event).filterMap Call.command? := by
  unfold statusEvents reports
  split
  · rfl
  · cases event <;> rfl

theorem command?_correctionEvents (session : σ) (last : Option Snapshot) (next : Snapshot) :
    (correctionEvents last next).filterMap Event.command? =
      ((corrections last next).map (.command session)).filterMap Call.command? := by
  unfold correctionEvents corrections
  split <;> split <;> rfl

theorem command?_eventsDue (policy : Policy) {state : State σ} (h : state.IsOrderly)
    (op : Operation σ) :
    (eventsDue policy state op).filterMap Event.command? =
      (callsDue policy state op).filterMap Call.command? := by
  cases op with
  | change change =>
    cases hs : state.session with
    | none =>
      rw [eventsDue_change_of_no_session hs]
      simp [callsDue, hs, Event.command?]
    | some session =>
      cases hc : change.snapshot? policy with
      | none =>
        obtain ⟨reason, hevents⟩ := eventsDue_change_of_discarded hs hc
        rw [hevents]
        simp [callsDue, hc, Event.command?]
      | some snapshot =>
        rw [eventsDue_change_of_snapshot hs hc, List.filterMap_append, List.filterMap_append,
          command?_statusEvents session _ _ (some .connected), command?_correctionEvents session]
        simp [callsDue, hs, hc, Event.command?]
  | attach session =>
    rw [eventsDue, List.filterMap_append, command?_statusEvents session _ _ none]
    exact List.append_nil _
  | detach =>
    rw [eventsDue, List.filterMap_append]
    cases hs : state.session with
    | none =>
      -- without a session the status is down already, so there is nobody to be told
      have hdown := h.session_eq_none_iff.mp hs
      simp [callsDue, statusEvents, reports, hdown, Event.command?]
    | some session =>
      rw [command?_statusEvents session _ _ (some .disconnected), callsDue, hs]
      exact List.append_nil _
  | loseTransport =>
    cases hs : state.session with
    | none => simp [eventsDue, callsDue, hs]
    | some session =>
      simp [eventsDue, callsDue, hs, command?_statusEvents session _ _ (some .reconnecting)]
  | fail reason =>
    cases hs : state.session with
    | none => simp [eventsDue, callsDue, hs]
    | some session =>
      simp [eventsDue, callsDue, hs, command?_statusEvents session _ _ (some .error)]

theorem command?_eventsThrough (policy : Policy) {state : State σ} (h : state.IsOrderly)
    (moves : List (Move σ)) :
    (eventsThrough policy state moves).filterMap Event.command? =
      (callsThrough policy state moves).filterMap Call.command? := by
  induction moves generalizing state with
  | nil => rfl
  | cons move rest ih =>
    have hmove : (move.eventsDue policy state).filterMap Event.command? =
        (move.callsDue policy state).filterMap Call.command? := by
      cases move with
      | operate op i => exact command?_eventsDue policy h op
      | inspect => rfl
      | drain count => rfl
      | closeEvents => rfl
    rw [eventsThrough, callsThrough, List.filterMap_append, List.filterMap_append, hmove,
      ih (move.isOrderly_next h)]

/-- When all threads have left, state, calls and events are those of the operations that entered. -/
theorem sequential_of_left {k : Coordinator σ} (h : k.lock ≠ .held) {turns : List (Turn σ)}
    (hcalm : .panic ∉ turns) (hleft : (sceneAfter turns ⟨k, none⟩).visit = none) :
    (sceneAfter turns ⟨k, none⟩).coordinator.state =
        stateAfter k.policy k.state (entered turns ⟨k, none⟩) ∧
      callsIn (traceOf turns ⟨k, none⟩) =
        callsThrough k.policy k.state (entered turns ⟨k, none⟩) ∧
      eventsIn (traceOf turns ⟨k, none⟩) =
        eventsThrough k.policy k.state (entered turns ⟨k, none⟩) := by
  have hsound := Scene.isSound_initial h
  obtain ⟨hstate, hcalls⟩ := hsound.promised_sceneAfter hcalm
  have hevents := hsound.events_sceneAfter hcalm
  rw [Scene.promised, Scene.pending_of_none hleft] at hstate
  rw [Scene.pending_of_none hleft, callsOf_nil, List.append_nil] at hcalls
  rw [Scene.pending_of_none hleft, eventsOf_nil, List.append_nil] at hevents
  exact ⟨hstate, hcalls, hevents⟩

section Start

variable {settings : Settings} {start : Coordinator σ}

/-- The events of an interleaving show the state that all threads have left. -/
theorem Picture.after_emittedIn (hstart : Coordinator.new settings = .ok start)
    {turns : List (Turn σ)} (hcalm : .panic ∉ turns)
    (hleft : (sceneAfter turns ⟨start, none⟩).visit = none) :
    initial.after (emittedIn (traceOf turns ⟨start, none⟩)) =
        (sceneAfter turns ⟨start, none⟩).coordinator.state.picture ∧
      initial.FitsAll (emittedIn (traceOf turns ⟨start, none⟩)) := by
  have hfree : start.lock ≠ .held := lock_after_new hstart []
  obtain ⟨hstate, -, hevents⟩ := sequential_of_left hfree hcalm hleft
  obtain ⟨hshown, hfits⟩ :=
    after_eventsThrough start.policy start.state (entered turns ⟨start, none⟩)
  have hblank : start.state.picture = initial := by
    rw [new_eq hstart]
    rfl
  rw [hblank, ← hevents, eventsIn_eq_filter] at hshown hfits
  rw [after_ownEvents, ← hstate] at hshown
  exact ⟨hshown, fitsAll_ownEvents.mp hfits⟩

theorem command?_emittedIn (hstart : Coordinator.new settings = .ok start)
    {turns : List (Turn σ)} (hcalm : .panic ∉ turns)
    (hleft : (sceneAfter turns ⟨start, none⟩).visit = none) :
    (emittedIn (traceOf turns ⟨start, none⟩)).filterMap Event.command? =
      commandsIn (traceOf turns ⟨start, none⟩) := by
  have hfree : start.lock ≠ .held := lock_after_new hstart []
  obtain ⟨-, hcalls, hevents⟩ := sequential_of_left hfree hcalm hleft
  have htold := command?_eventsThrough start.policy (isOrderly_new hstart)
    (entered turns ⟨start, none⟩)
  rw [commandsIn, hcalls, ← htold, ← hevents, eventsIn_eq_filter, List.filterMap_filter]
  apply List.filterMap_congr
  intro event _
  cases event <;> rfl

/-- Without a panic, whenever nobody is inside: the events show the status, whether there is a
session, and the last snapshot; each new status is told with the one that was told before, which is
another one; and the commands that the events tell of are those that sessions were given. If no
event is lost, these are the events that are received. Every run of moves without a panic is such an
interleaving. -/
theorem events_are_a_faithful_record (hstart : Coordinator.new settings = .ok start) :
    (∀ turns, .panic ∉ turns → (sceneAfter turns ⟨start, none⟩).visit = none →
      let told := emittedIn (traceOf turns ⟨start, none⟩)
      let state := (sceneAfter turns ⟨start, none⟩).coordinator.inspect.1
      Picture.initial.after told = ⟨state.status, state.session.isSome, state.last⟩ ∧
        (∀ front old new back, told = front ++ .statusChanged old new :: back →
          old = (Picture.initial.after front).status ∧ old ≠ new) ∧
        told.filterMap Event.command? = commandsIn (traceOf turns ⟨start, none⟩) ∧
        (lost turns ⟨start, none⟩ = [] → received turns ⟨start, none⟩ = told)) ∧
      ∀ moves, (∀ move ∈ moves, move.IsCalm) → ∃ turns, .panic ∉ turns ∧
        Plays turns ⟨start, none⟩ ⟨after moves start, none⟩ (history moves start) := by
  have hfree : start.lock ≠ .held := lock_after_new hstart []
  refine ⟨?_, fun moves hcalm => calm_run_is_interleaving hfree hcalm⟩
  intro turns hcalm hleft told state
  obtain ⟨hshown, hfits⟩ := Picture.after_emittedIn hstart hcalm hleft
  have hstate : state = (sceneAfter turns ⟨start, none⟩).coordinator.state := inspect_fst _
  refine ⟨?_, ?_, command?_emittedIn hstart hcalm hleft, received_eq hstart⟩
  · rw [hshown, ← hstate]
    rfl
  · intro front old new back htold
    change Picture.initial.FitsAll told at hfits
    rw [htold] at hfits
    exact Picture.eq_of_fitsAll hfits

end Start

/-- Another change meets an attachment, one is applied, and the transport is lost. -/
theorem lost_transport_is_on_record :
    let start : Coordinator String := ⟨.skip, .new 9, .initial, .free⟩
    let wifi : Change := ⟨⟨"wifi"⟩, ["1.1.1.1"]⟩
    let turns : List (Turn String) :=
      .arrive (.operate (.attach "s")) :: (List.replicate 3 .proceed ++ .ofChange wifi ::
        (List.replicate 5 .proceed ++ .ofChange wifi :: (List.replicate 14 .proceed ++
          .drain (some 4) :: .arrive (.operate .loseTransport) :: List.replicate 6 .proceed)))
    Coordinator.new ⟨.skip, 9⟩ = .ok start ∧ .panic ∉ turns ∧
      (sceneAfter turns ⟨start, none⟩).visit = none ∧ lost turns ⟨start, none⟩ = [] ∧
      (received turns ⟨start, none⟩).length = 8 ∧
      Picture.initial.after (received turns ⟨start, none⟩) =
        ⟨.connecting, true, some ⟨⟨"wifi"⟩, [.v4 ⟨1, 1, 1, 1⟩]⟩⟩ ∧
      (received turns ⟨start, none⟩).filterMap Event.command? =
        [.setStatus .connecting, .setStatus .up, .setServers [.v4 ⟨1, 1, 1, 1⟩], .reconnect,
          .setStatus .connecting] := by
  intro start wifi turns
  have hstart : Coordinator.new ⟨.skip, 9⟩ = .ok start := rfl
  have hcalm : .panic ∉ turns := by decide +kernel
  have hleft : (sceneAfter turns ⟨start, none⟩).visit = none :=
    Option.isNone_iff_eq_none.mp (by decide +kernel)
  have hlost : lost turns ⟨start, none⟩ = [] := by decide +kernel
  obtain ⟨hshown, -, htold, hreceived⟩ := (events_are_a_faithful_record hstart).1 turns hcalm hleft
  rw [hreceived hlost, hshown, htold]
  refine ⟨hstart, hcalm, hleft, hlost, ?_, ?_, ?_⟩
  · decide +kernel
  · decide +kernel
  · decide +kernel

end PathKeeper.Coordinator
