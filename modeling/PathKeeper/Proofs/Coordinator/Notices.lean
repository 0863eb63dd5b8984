import Mathlib.Data.List.Chain
import Mathlib.Data.List.ReduceOption
import PathKeeper.Proofs.Coordinator.Lifecycle
import PathKeeper.Proofs.Coordinator.Linearization
import PathKeeper.Proofs.Coordinator.Recovery

/-!
# Notices

A user is told of each new status once, except that an attachment is silent. So the same is not told
twice in a row unless a session was attached in between; that the session reconnects, not even then;
and after a disconnection nothing is told before the next attachment.
-/

namespace PathKeeper

set_option autoImplicit false

/-- What a user is told of a new status. -/
def SessionStatus.announcement : SessionStatus → StatusEvent
  | .down => .disconnected
  | .connecting => .reconnecting
  | .up => .connected
  | .error => .error

theorem SessionStatus.announcement_inj {status other : SessionStatus} :
    status.announcement = other.announcement ↔ status = other := by
  cases status <;> cases other <;> decide

namespace Coordinator

variable {σ : Type}

/-! ## Notices of an operation -/

def Call.notice? : Call σ → Option StatusEvent
  | .notify event => some event
  | .command _ _ => none

def noticesAmong (calls : List (Call σ)) : List StatusEvent := calls.filterMap Call.notice?

def noticesIn (trace : List (Happening σ)) : List StatusEvent := noticesAmong (callsIn trace)

@[simp] theorem noticesAmong_nil : noticesAmong ([] : List (Call σ)) = [] := rfl

theorem noticesAmong_append (front back : List (Call σ)) :
    noticesAmong (front ++ back) = noticesAmong front ++ noticesAmong back :=
  List.filterMap_append

theorem noticesIn_append (front back : List (Happening σ)) :
    noticesIn (front ++ back) = noticesIn front ++ noticesIn back := by
  rw [noticesIn, callsIn_append, noticesAmong_append]
  rfl

def shift (before after : SessionStatus) : List SessionStatus :=
  if before = after then [] else [after]

@[simp] theorem shift_self (status : SessionStatus) : shift status status = [] := if_pos rfl

theorem noticesAmong_reports (session : Option σ) (before after : SessionStatus) :
    noticesAmong (reports session before after (some after.announcement)) =
      (shift before after).map SessionStatus.announcement := by
  unfold reports shift
  split
  · rfl
  · cases session <;> rfl

theorem noticesAmong_corrections (session : σ) (last : Option Snapshot) (next : Snapshot) :
    noticesAmong ((corrections last next).map (.command session)) = [] := by
  unfold corrections
  split <;> split <;> rfl

theorem noticesAmong_callsDue_of_attaches (policy : Policy) (state : State σ) {op : Operation σ}
    (h : op.attaches = true) : noticesAmong (callsDue policy state op) = [] := by
  cases op with
  | attach session =>
    rw [callsDue, reports]
    split <;> rfl
  | change change => cases h
  | detach => cases h
  | loseTransport => cases h
  | fail reason => cases h

theorem noticesAmong_callsDue (policy : Policy) (state : State σ) {op : Operation σ}
    (h : op.attaches = false) :
    noticesAmong (callsDue policy state op) =
      (shift state.status (state.next policy op).status).map SessionStatus.announcement := by
  cases op with
  | attach session => cases h
  | change change =>
    simp only [callsDue, State.next]
    split
    · rw [noticesAmong_append, noticesAmong_corrections, List.append_nil]
      exact noticesAmong_reports state.session state.status .up
    · rw [shift_self]
      rfl
  | detach => exact noticesAmong_reports state.session state.status .down
  | loseTransport =>
    simp only [callsDue, State.next]
    split
    · rw [shift_self]
      rfl
    · exact noticesAmong_reports state.session state.status .connecting
  | fail reason =>
    simp only [callsDue, State.next]
    split
    · rw [shift_self]
      rfl
    · exact noticesAmong_reports state.session state.status .error

/-! ## New statuses -/

/-- The new statuses that actions bring. -/
def shiftsOf : State σ → List (Action σ) → List SessionStatus
  | _, [] => []
  | state, action :: rest =>
    shift state.status (action.settle state).status ++ shiftsOf (action.settle state) rest

theorem shiftsOf_append (state : State σ) (front back : List (Action σ)) :
    shiftsOf state (front ++ back) =
      shiftsOf state front ++ shiftsOf (settled state front) back := by
  induction front generalizing state with
  | nil => rfl
  | cons action front ih =>
    rw [List.cons_append, shiftsOf, ih, shiftsOf, List.append_assoc, settled_cons]

theorem shiftsOf_of_no_write {actions : List (Action σ)} (h : actions.any Action.isWrite = false)
    (state : State σ) : shiftsOf state actions = [] := by
  induction actions with
  | nil => rfl
  | cons action rest ih =>
    rw [List.any_cons, Bool.or_eq_false_iff] at h
    have hkept : action.settle state = state := by
      cases action with
      | write written => cases h.1
      | _ => rfl
    rw [shiftsOf, hkept, shift_self, ih h.2]
    rfl

theorem shiftsOf_transition (state : State σ) (status : SessionStatus)
    (event : Option StatusEvent) :
    shiftsOf state (transition state status event) = shift state.status status := by
  unfold transition
  split
  · next hsame =>
    rw [hsame, shift_self]
    rfl
  · rw [List.append_assoc, List.append_assoc, List.singleton_append, shiftsOf,
      shiftsOf_of_no_write (by simp [Action.isWrite]), List.append_nil]
    rfl

theorem shiftsOf_script (policy : Policy) (state : State σ) (op : Operation σ) :
    shiftsOf state (script policy state op) =
      shift state.status (state.next policy op).status := by
  cases op with
  | change change =>
    cases hs : state.session with
    | none =>
      simp [script, onChange, State.next, hs, shiftsOf]
    | some session =>
      cases hc : change.snapshot? policy with
      | none =>
        obtain ⟨fault, hfault⟩ := Change.normalize_of_snapshot?_eq_none hc
        simp [script, onChange, State.next, hs, hc, hfault, shiftsOf]
      | some snapshot =>
        have hcalls : (commitCalls state session snapshot).any Action.isWrite = false := by
          simp [commitCalls]
        rw [script_change_of_snapshot hs hc, commit_eq, shiftsOf_append, shiftsOf_append,
          shiftsOf_append, shiftsOf_of_no_write (plain_skipNotes policy change).1,
          settled_of_no_write (plain_skipNotes policy change).1, shiftsOf_transition,
          shiftsOf_of_no_write hcalls, settled_append, settled_transition,
          settled_of_no_write hcalls]
        simp [State.next, hs, hc, shiftsOf]
  | attach session =>
    simp [script, onAttach, State.next, shiftsOf, shiftsOf_append, shiftsOf_transition]
  | detach =>
    simp only [script, onDetach, State.next]
    split <;> simp [shiftsOf, shiftsOf_append, shiftsOf_transition, State.initial]
  | loseTransport =>
    simp only [script, onLoseTransport, State.next]
    split
    · simp [shiftsOf]
    · exact shiftsOf_transition state .connecting _
  | fail reason =>
    simp only [script, onFail, State.next]
    split
    · simp [shiftsOf]
    · simp [shiftsOf, shiftsOf_transition]

/-- The new status of an operation is announced, unless the operation is an attachment. -/
theorem map_announcement_shiftsOf (policy : Policy) (state : State σ) (op : Operation σ) :
    (if op.attaches then [] else shiftsOf state (script policy state op)).map
        SessionStatus.announcement = noticesAmong (callsDue policy state op) := by
  rw [shiftsOf_script]
  cases h : op.attaches with
  | true => exact (noticesAmong_callsDue_of_attaches policy state h).symm
  | false => exact (noticesAmong_callsDue policy state h).symm

/-! ## Moves one after another -/

def noticesThrough (policy : Policy) (state : State σ) (moves : List (Move σ)) :
    List StatusEvent := noticesAmong (callsThrough policy state moves)

theorem noticesThrough_append (policy : Policy) (state : State σ) (front back : List (Move σ)) :
    noticesThrough policy state (front ++ back) =
      noticesThrough policy state front ++
        noticesThrough policy (stateAfter policy state front) back := by
  rw [noticesThrough, callsThrough_append, noticesAmong_append]
  rfl

/-- What the user is told of a calm move, or `none` if it attaches a session. -/
def Move.marks (policy : Policy) (state : State σ) (move : Move σ) : List (Option StatusEvent) :=
  if move.attaches then [none] else (noticesAmong (move.callsDue policy state)).map some

def marksThrough (policy : Policy) : State σ → List (Move σ) → List (Option StatusEvent)
  | _, [] => []
  | state, move :: rest =>
    move.marks policy state ++ marksThrough policy (move.next policy state) rest

theorem marksThrough_append (policy : Policy) (state : State σ) (front back : List (Move σ)) :
    marksThrough policy state (front ++ back) =
      marksThrough policy state front ++
        marksThrough policy (stateAfter policy state front) back := by
  induction front generalizing state with
  | nil => rfl
  | cons move front ih =>
    rw [List.cons_append, marksThrough, ih, marksThrough, List.append_assoc, stateAfter_cons]

theorem marksThrough_of_not_attaches (policy : Policy) (state : State σ) {moves : List (Move σ)}
    (h : moves.any Move.attaches = false) :
    marksThrough policy state moves = (noticesThrough policy state moves).map some := by
  induction moves generalizing state with
  | nil => rfl
  | cons move rest ih =>
    rw [List.any_cons, Bool.or_eq_false_iff] at h
    rw [marksThrough, Move.marks, h.1, if_neg Bool.false_ne_true, ih _ h.2, noticesThrough,
      noticesThrough, callsThrough, noticesAmong_append, List.map_append]

section Move

variable {policy : Policy} {state : State σ} {move : Move σ}

theorem Move.noticesAmong_callsDue_of_attaches (h : move.attaches = true) :
    noticesAmong (move.callsDue policy state) = [] := by
  cases move with
  | operate op i => exact Coordinator.noticesAmong_callsDue_of_attaches policy state h
  | _ => rfl

theorem Move.noticesAmong_callsDue (h : move.attaches = false) :
    noticesAmong (move.callsDue policy state) =
      (shift state.status (move.next policy state).status).map SessionStatus.announcement := by
  cases move with
  | operate op i => exact Coordinator.noticesAmong_callsDue policy state h
  | _ => exact congrArg (List.map _) (shift_self state.status).symm

theorem Move.status_next_of_attaches (h : move.attaches = true) :
    (move.next policy state).status = .connecting := by
  cases move with
  | operate op i =>
    cases op with
    | attach session => rfl
    | _ => cases h
  | _ => cases h

/-- Only an attachment ends a disconnection. -/
theorem Move.status_next_of_down (horderly : state.IsOrderly) (h : move.attaches = false)
    (hdown : state.status = .down) : (move.next policy state).status = .down := by
  have hnone := horderly.session_eq_none_iff.mpr hdown
  cases move with
  | operate op i =>
    cases op with
    | attach session => cases h
    | change change => simp [next, State.next, hnone, hdown]
    | detach => rfl
    | loseTransport => simp [next, State.next, hnone, hdown]
    | fail reason => simp [next, State.next, hnone, hdown]
  | _ => exact hdown

end Move

/-- Nothing is told twice, and nothing after a disconnection, unless a session is attached. -/
def Follows : Option StatusEvent → Option StatusEvent → Prop
  | some earlier, some later => earlier ≠ later ∧ earlier ≠ .disconnected
  | _, _ => True

theorem isChain_marksThrough (policy : Policy) {state : State σ} (h : state.IsOrderly)
    (moves : List (Move σ)) :
    (some state.status.announcement :: marksThrough policy state moves).IsChain Follows := by
  -- the mark in front is what was told last, or would have been
  induction moves generalizing state with
  | nil => exact .singleton _
  | cons move rest ih =>
    have hnext : (move.next policy state).IsOrderly := move.isOrderly_next h
    have hrest := ih hnext
    rw [marksThrough, Move.marks]
    cases hattaches : move.attaches with
    | true =>
      rw [if_pos rfl]
      exact .cons_cons trivial (hrest.imp_head fun _ => trivial)
    | false =>
      rw [if_neg Bool.false_ne_true, Move.noticesAmong_callsDue hattaches]
      by_cases hsame : state.status = (move.next policy state).status
      · rw [← hsame, shift_self]
        rw [← hsame] at hrest
        exact hrest
      · rw [shift, if_neg hsame]
        have hother : state.status.announcement ≠ (move.next policy state).status.announcement :=
          fun heq => hsame (SessionStatus.announcement_inj.mp heq)
        have hup : state.status.announcement ≠ .disconnected := by
          intro hdisconnected
          have hdown : state.status = .down := SessionStatus.announcement_inj.mp hdisconnected
          exact hsame (hdown.trans (Move.status_next_of_down h hattaches hdown).symm)
        exact .cons_cons ⟨hother, hup⟩ hrest

/-- An attachment that tells nothing leaves the session connecting. -/
theorem isChain_noticesThrough (policy : Policy) (state : State σ) (moves : List (Move σ)) :
    (state.status.announcement :: noticesThrough policy state moves).IsChain
      fun earlier later => ¬ (earlier = .reconnecting ∧ later = .reconnecting) := by
  induction moves generalizing state with
  | nil => exact .singleton _
  | cons move rest ih =>
    have hrest := ih (move.next policy state)
    rw [noticesThrough, callsThrough, noticesAmong_append]
    cases hattaches : move.attaches with
    | true =>
      rw [Move.status_next_of_attaches hattaches] at hrest
      rw [Move.noticesAmong_callsDue_of_attaches hattaches]
      exact hrest.imp_head fun hfirst hboth => hfirst ⟨rfl, hboth.2⟩
    | false =>
      rw [Move.noticesAmong_callsDue hattaches]
      by_cases hsame : state.status = (move.next policy state).status
      · rw [← hsame, shift_self]
        rw [← hsame] at hrest
        exact hrest
      · rw [shift, if_neg hsame]
        refine .cons_cons ?_ hrest
        rintro ⟨hbefore, hafter⟩
        exact hsame (SessionStatus.announcement_inj.mp (hbefore.trans hafter.symm))

/-! ## Turns -/

def Errand.attaches : Errand σ → Bool
  | .operate op => op.attaches
  | .look => false

def Scene.isAttaching (scene : Scene σ) : Bool :=
  scene.visit.elim false fun visit => visit.errand.attaches

/-- The new status that a turn brings, unless a session is being attached. -/
def Turn.shifts (scene : Scene σ) (turn : Turn σ) : List SessionStatus :=
  if scene.isAttaching then []
  else shift scene.coordinator.state.status (turn.step scene).1.coordinator.state.status

/-- All new statuses but those of attachments. -/
def shifts : List (Turn σ) → Scene σ → List SessionStatus
  | [], _ => []
  | turn :: rest, scene => turn.shifts scene ++ shifts rest (turn.step scene).1

/-- The new statuses that the thread inside has yet to bring. -/
def Scene.shiftsDue (scene : Scene σ) : List SessionStatus :=
  if scene.isAttaching then [] else shiftsOf scene.coordinator.state scene.pending

/-- What the user is told in a turn, or `none` if a session comes to be attached. -/
def Turn.marks (scene : Scene σ) (turn : Turn σ) : List (Option StatusEvent) :=
  (noticesIn (turn.step scene).2).map some ++
    if (turn.entering scene).any Move.attaches then [none] else []

/-- What the user is told, with `none` where a session comes to be attached. -/
def marks : List (Turn σ) → Scene σ → List (Option StatusEvent)
  | [], _ => []
  | turn :: rest, scene => turn.marks scene ++ marks rest (turn.step scene).1

theorem reduceOption_marks (turns : List (Turn σ)) (scene : Scene σ) :
    (marks turns scene).reduceOption = noticesIn (traceOf turns scene) := by
  induction turns generalizing scene with
  | nil => rfl
  | cons turn rest ih =>
    have hturn : (turn.marks scene).reduceOption = noticesIn (turn.step scene).2 := by
      rw [Turn.marks, List.reduceOption_append]
      split <;> simp [List.reduceOption, List.filterMap_map]
    rw [marks, List.reduceOption_append, hturn, ih, traceOf, noticesIn_append]

/-- At most one operation enters at a turn, and if one does, nobody was inside. -/
theorem Turn.entering_cases (turn : Turn σ) (scene : Scene σ) :
    turn.entering scene = [] ∨
      ∃ op, scene.visit = none ∧ turn.entering scene = [.operate op .none] := by
  cases hvisit : scene.visit with
  | some visit => exact .inl (entering_of_visit hvisit turn)
  | none =>
    unfold entering
    split
    · next op =>
      rw [hvisit]
      exact .inr ⟨op, rfl, rfl⟩
    · exact .inl rfl

theorem Scene.IsSound.marks_step {scene : Scene σ} (h : scene.IsSound) {turn : Turn σ}
    (hcalm : turn ≠ .panic) :
    turn.marks scene ++ (noticesAmong (callsOf (turn.step scene).1.pending)).map some =
      (noticesAmong (callsOf scene.pending)).map some ++
        marksThrough scene.coordinator.policy scene.promised (turn.entering scene) := by
  have hnotices := congrArg noticesAmong (h.promised_step hcalm).2
  rw [noticesAmong_append, noticesAmong_append] at hnotices
  rw [Turn.marks]
  cases hattaches : (turn.entering scene).any Move.attaches with
  | false =>
    rw [marksThrough_of_not_attaches _ _ hattaches, if_neg Bool.false_ne_true, List.append_nil,
      noticesThrough, ← List.map_append, ← List.map_append]
    exact congrArg (List.map some) hnotices
  | true =>
    -- an attachment finds nobody inside and tells nothing itself
    obtain hnone | ⟨op, hvisit, hentering⟩ := turn.entering_cases scene
    · rw [hnone] at hattaches
      cases hattaches
    · have hop : (Move.operate op .none).attaches = true := by simpa [hentering] using hattaches
      rw [hentering, pending_of_none hvisit, callsThrough, noticesAmong_append,
        Move.noticesAmong_callsDue_of_attaches hop] at hnotices
      obtain ⟨htold, hdue⟩ := List.append_eq_nil_iff.mp hnotices
      rw [hentering, pending_of_none hvisit, marksThrough, Move.marks, if_pos rfl, if_pos hop, hdue]
      change (noticesAmong (callsIn _)).map some ++ _ ++ _ = _
      rw [htold]
      rfl

theorem Scene.IsSound.marks_sceneAfter {scene : Scene σ} (h : scene.IsSound)
    {turns : List (Turn σ)} (hcalm : .panic ∉ turns) :
    marks turns scene ++ (noticesAmong (callsOf (sceneAfter turns scene).pending)).map some =
      (noticesAmong (callsOf scene.pending)).map some ++
        marksThrough scene.coordinator.policy scene.promised (entered turns scene) :=
  Scene.IsSound.balance marks (fun scene => (noticesAmong (callsOf scene.pending)).map some)
    marksThrough (fun _ => rfl) (fun _ _ => rfl) (fun turn rest scene => by simp [marks])
    marksThrough_append
    (fun scene turn hsound hturn => by simpa [marks] using hsound.marks_step hturn) h hcalm

section Visits

variable {scene : Scene σ}

theorem Scene.isAttaching_of_visit {visit : Visit σ} (h : scene.visit = some visit) :
    scene.isAttaching = visit.errand.attaches := by
  rw [isAttaching, h]
  rfl

theorem Scene.isAttaching_of_none (h : scene.visit = none) : scene.isAttaching = false := by
  rw [isAttaching, h]
  rfl

theorem Scene.shiftsDue_of_visit {visit : Visit σ} (h : scene.visit = some visit) :
    scene.shiftsDue =
      if visit.errand.attaches then [] else shiftsOf scene.coordinator.state visit.rest := by
  rw [shiftsDue, isAttaching_of_visit h, pending_of_visit h]

theorem Scene.shiftsDue_of_none (h : scene.visit = none) : scene.shiftsDue = [] := by
  rw [shiftsDue, pending_of_none h]
  exact ite_self []

theorem Scene.shiftsDue_congr {other : Scene σ} (hvisit : other.visit = scene.visit)
    (hstate : other.coordinator.state = scene.coordinator.state) :
    other.shiftsDue = scene.shiftsDue := by
  unfold shiftsDue isAttaching pending
  rw [hvisit, hstate]

end Visits

/-- A new status is due from when an operation enters, if it is not an attachment. -/
theorem Scene.IsSound.shifts_step {scene : Scene σ} (h : scene.IsSound) {turn : Turn σ}
    (hcalm : turn ≠ .panic) :
    (turn.shifts scene ++ (turn.step scene).1.shiftsDue).map SessionStatus.announcement =
      scene.shiftsDue.map SessionStatus.announcement ++
        noticesThrough scene.coordinator.policy scene.promised (turn.entering scene) := by
  unfold Turn.shifts
  have hsame : ∀ {other : Scene σ}, other.visit = scene.visit →
      other.coordinator.state = scene.coordinator.state →
      ((if scene.isAttaching then []
          else shift scene.coordinator.state.status other.coordinator.state.status) ++
        other.shiftsDue).map SessionStatus.announcement =
      scene.shiftsDue.map SessionStatus.announcement ++ [] := by
    intro other hvisit hstate
    rw [hstate, shift_self, ite_self, shiftsDue_congr hvisit hstate, List.append_nil]
    rfl
  have hcomes := h.comes turn
  generalize turn.step scene = next at hcomes
  cases hcomes with
  | refused hvisit =>
    rw [Turn.entering_of_visit hvisit]
    exact hsame hvisit.symm rfl
  | waits hvisit herrand =>
    rw [Turn.entering_of_visit hvisit]
    exact hsame rfl rfl
  | @enters errand hvisit =>
    rw [isAttaching_of_none hvisit, if_neg Bool.false_ne_true, shift_self, shiftsDue_of_none hvisit,
      promised, pending_of_none hvisit, shiftsDue_of_visit rfl]
    cases errand with
    | look => rfl
    | operate op =>
      rw [Turn.entering_operate hvisit, noticesThrough, callsThrough, callsThrough, List.append_nil]
      exact map_announcement_shiftsOf _ _ op
  | @acts errand action rest calling hvisit =>
    rw [Turn.entering_of_ne (by simp), isAttaching_of_visit hvisit, shiftsDue_of_visit hvisit,
      shiftsDue_of_visit rfl, state_perform_one]
    cases errand.attaches with
    | true => rfl
    | false => exact (List.append_nil _).symm
  | @leaves errand calling hvisit =>
    rw [Turn.entering_of_visit hvisit, shift_self, ite_self, shiftsDue_of_none rfl,
      shiftsDue_of_visit hvisit, shiftsOf, ite_self]
    rfl
  | panics hvisit => exact absurd rfl hcalm
  | passes hturn channel =>
    rw [Turn.entering_of_ne hturn]
    exact hsame rfl rfl

theorem Scene.IsSound.shifts_sceneAfter {scene : Scene σ} (h : scene.IsSound)
    {turns : List (Turn σ)} (hcalm : .panic ∉ turns) :
    (shifts turns scene).map SessionStatus.announcement ++
        (sceneAfter turns scene).shiftsDue.map SessionStatus.announcement =
      scene.shiftsDue.map SessionStatus.announcement ++
        noticesThrough scene.coordinator.policy scene.promised (entered turns scene) :=
  Scene.IsSound.balance (fun turns scene => (shifts turns scene).map SessionStatus.announcement)
    (fun scene => scene.shiftsDue.map SessionStatus.announcement) noticesThrough (fun _ => rfl)
    (fun _ _ => rfl) (fun turn rest scene => by simp [shifts]) noticesThrough_append
    (fun scene turn hsound hturn => by simpa [shifts] using hsound.shifts_step hturn) h hcalm

/-- Without a panic, whenever nobody is inside, the user has been told of each new status once, as
its announcement, and of no other, where an attachment brings a new status silently. At any moment:
of two notices in a row, without an attachment that comes to enter in between, the second is another
one, and the first is not of a disconnection; and the user is never told twice in a row that the
session reconnects. Every run of moves without a panic is such an interleaving. -/
theorem notices_follow_the_status {settings : Settings} {start : Coordinator σ}
    (hstart : Coordinator.new settings = .ok start) :
    (∀ turns, .panic ∉ turns →
      let told := noticesIn (traceOf turns ⟨start, none⟩)
      ((sceneAfter turns ⟨start, none⟩).visit = none →
        told = (shifts turns ⟨start, none⟩).map SessionStatus.announcement) ∧
        (marks turns ⟨start, none⟩).reduceOption = told ∧
        (∀ front earlier later back,
          marks turns ⟨start, none⟩ = front ++ some earlier :: some later :: back →
            earlier ≠ later ∧ earlier ≠ .disconnected) ∧
        ∀ front back, told ≠ front ++ .reconnecting :: .reconnecting :: back) ∧
      ∀ moves, (∀ move ∈ moves, move.IsCalm) → ∃ turns, .panic ∉ turns ∧
        Plays turns ⟨start, none⟩ ⟨after moves start, none⟩ (history moves start) := by
  have hfree : start.lock ≠ .held := lock_after_new hstart []
  refine ⟨?_, fun moves hcalm => calm_run_is_interleaving hfree hcalm⟩
  intro turns hcalm told
  have hsound := Scene.isSound_initial hfree
  have hcalls := (hsound.promised_sceneAfter hcalm).2
  have hnotices := congrArg noticesAmong hcalls
  rw [noticesAmong_append, noticesAmong_append] at hnotices
  refine ⟨?_, reduceOption_marks turns _, ?_, ?_⟩
  · intro hleft
    have hshifts := hsound.shifts_sceneAfter hcalm
    rw [Scene.shiftsDue_of_none hleft, Scene.shiftsDue_of_none rfl, List.map_nil,
      List.append_nil] at hshifts
    rw [Scene.pending_of_none hleft, callsOf_nil, noticesAmong_nil, List.append_nil] at hnotices
    exact hnotices.trans hshifts.symm
  · have hmarks := hsound.marks_sceneAfter hcalm
    have hchain := isChain_marksThrough start.policy (isOrderly_new hstart)
      (entered turns ⟨start, none⟩)
    have hpart : marks turns ⟨start, none⟩ <+:
        marksThrough start.policy start.state (entered turns ⟨start, none⟩) :=
      ⟨_, hmarks⟩
    have hmarked := List.IsChain.prefix hchain.tail hpart
    intro front earlier later back hsplit
    exact List.isChain_iff_forall_rel_of_append_cons_cons.mp hmarked hsplit
  · have hchain := isChain_noticesThrough start.policy start.state (entered turns ⟨start, none⟩)
    have hpart : told <+:
        noticesThrough start.policy start.state (entered turns ⟨start, none⟩) :=
      ⟨_, hnotices⟩
    have htold := List.IsChain.prefix hchain.tail hpart
    intro front back hsplit
    exact List.isChain_iff_forall_rel_of_append_cons_cons.mp htold hsplit ⟨rfl, rfl⟩

/-- The user is told twice of a connection, with an attachment in between, and hears nothing of a
change that comes after the disconnection. -/
theorem silent_attachment_between_notices :
    let start : Coordinator String := ⟨.skip, .new 2, .initial, .free⟩
    let wifi : Change := ⟨⟨"wifi"⟩, ["1.1.1.1"]⟩
    let thread (op : Operation String) : List (Turn String) :=
      .arrive (.operate op) :: (List.replicate 3 .proceed ++ .ofChange wifi ::
        List.replicate 11 .proceed)
    let turns := thread (.attach "a") ++ thread (.change wifi) ++ thread (.attach "b") ++
      thread (.change wifi) ++ thread .loseTransport ++ thread (.fail "gone") ++ thread .detach ++
      thread .loseTransport
    let scene := sceneAfter turns ⟨start, none⟩
    Coordinator.new ⟨.skip, 2⟩ = .ok start ∧ .panic ∉ turns ∧ scene.visit = none ∧
      noticesIn (traceOf turns ⟨start, none⟩) =
        [.connected, .connected, .reconnecting, .error, .disconnected] ∧
      marks turns ⟨start, none⟩ =
        [none, some .connected, none, some .connected, some .reconnecting, some .error,
          some .disconnected] := by
  intro start wifi thread turns scene
  have hstart : Coordinator.new ⟨.skip, 2⟩ = .ok start := rfl
  have hcalm : .panic ∉ turns := by decide +kernel
  have hleft : scene.visit = none := Option.isNone_iff_eq_none.mp (by decide +kernel)
  have htold := ((notices_follow_the_status hstart).1 turns hcalm).1 hleft
  rw [htold]
  refine ⟨hstart, hcalm, hleft, ?_, ?_⟩
  · decide +kernel
  · decide +kernel

end Coordinator

end PathKeeper
