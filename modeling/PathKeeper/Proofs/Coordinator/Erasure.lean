import PathKeeper.Proofs.Coordinator.Events
import PathKeeper.Proofs.Coordinator.Linearization

/-!
# Erasure

A change that comes to nothing can be deleted from a run: one that is dropped while an operation is
under way, one without a session, and one that the policy discards. What is left makes the same
calls and goes through the same states.
-/

namespace PathKeeper.Coordinator

set_option autoImplicit false

variable {σ : Type}

/-! ## Changes that come to nothing -/

/-- Whether an event says of a change that entered that it came to nothing. -/
def Event.isSetback : Event → Bool
  | .sessionUnavailable _ => true
  | .updateRejected _ _ => true
  | _ => false

def Outcome.isVain (outcome : Outcome σ) : Bool := (eventsIn outcome.trace).any Event.isSetback

/-- What is to be the same without the changes that come to nothing: calls, events of its own, and
the state that is left. -/
def Outcome.effect (outcome : Outcome σ) : List (Call σ) × List Event × State σ :=
  (callsIn outcome.trace, eventsIn outcome.trace, outcome.coordinator.state)

namespace Move

def isChange : Move σ → Bool
  | .operate (.change _) _ => true
  | _ => false

def alone : Move σ → Move σ
  | .operate op _ => .operate op .none
  | move => move

end Move

/-- A run without the changes that came to nothing, and without those that came during calls. -/
def effective : List (Move σ) → Coordinator σ → List (Move σ)
  | [], _ => []
  | move :: rest, k =>
    let outcome := move.outcome k
    (if outcome.isVain then [] else [move.alone]) ++ effective rest outcome.coordinator

theorem any_isSetback_statusEvents (before after : SessionStatus) :
    (statusEvents before after).any Event.isSetback = false := by
  unfold statusEvents
  split <;> rfl

theorem any_isSetback_correctionEvents (last : Option Snapshot) (next : Snapshot) :
    (correctionEvents last next).any Event.isSetback = false := by
  unfold correctionEvents
  split <;> split <;> rfl

/-- A change comes to nothing without a session or without a snapshot, and else it is committed. -/
theorem change_is_vain_or_committed (policy : Policy) (state : State σ) (change : Change) :
    ((eventsDue policy state (.change change)).any Event.isSetback = true ∧
        state.next policy (.change change) = state ∧
        callsDue policy state (.change change) = []) ∨
      ((eventsDue policy state (.change change)).any Event.isSetback = false ∧
        ∃ snapshot, change.snapshot? policy = some snapshot ∧
          .snapshotCommitted snapshot ∈ eventsDue policy state (.change change)) := by
  cases hs : state.session with
  | none =>
    refine .inl ⟨?_, ?_, ?_⟩
    · rw [eventsDue_change_of_no_session hs]
      rfl
    · simp [State.next, hs]
    · simp [callsDue, hs]
  | some session =>
    cases hc : change.snapshot? policy with
    | none =>
      obtain ⟨reason, hevents⟩ := eventsDue_change_of_discarded hs hc
      refine .inl ⟨?_, ?_, ?_⟩
      · rw [hevents]
        rfl
      · simp [State.next, hc]
      · simp [callsDue, hc]
    | some snapshot =>
      rw [eventsDue_change_of_snapshot hs hc]
      refine .inr ⟨?_, snapshot, rfl, by simp⟩
      rw [List.any_append, List.any_append, any_isSetback_statusEvents,
        any_isSetback_correctionEvents]
      rfl

theorem Operation.any_isSetback_eventsDue {op : Operation σ} (hop : ∀ change, op ≠ .change change)
    (policy : Policy) (state : State σ) :
    (eventsDue policy state op).any Event.isSetback = false := by
  cases op with
  | change change => exact absurd rfl (hop change)
  | attach session =>
    rw [eventsDue, List.any_append, any_isSetback_statusEvents]
    rfl
  | detach =>
    rw [eventsDue, List.any_append, any_isSetback_statusEvents]
    rfl
  | loseTransport =>
    rw [eventsDue]
    split
    · rfl
    · exact any_isSetback_statusEvents _ _
  | fail reason =>
    rw [eventsDue]
    split
    · rfl
    · exact any_isSetback_statusEvents _ _

namespace Move

theorem eq_change_of_isSetback {policy : Policy} {state : State σ} {move : Move σ}
    (h : (move.eventsDue policy state).any Event.isSetback = true) :
    ∃ change i, move = .operate (.change change) i := by
  cases move with
  | operate op i =>
    by_cases hop : ∀ change, op ≠ .change change
    · have hno := Operation.any_isSetback_eventsDue hop policy state
      rw [eventsDue, hno] at h
      cases h
    · obtain ⟨change, rfl⟩ : ∃ change, op = .change change := by simpa using hop
      exact ⟨change, i, rfl⟩
  | inspect => cases h
  | drain count => cases h
  | closeEvents => cases h

theorem next_of_isSetback {policy : Policy} {state : State σ} {move : Move σ}
    (h : (move.eventsDue policy state).any Event.isSetback = true) :
    move.next policy state = state ∧ move.callsDue policy state = [] := by
  obtain ⟨change, i, rfl⟩ := eq_change_of_isSetback h
  rcases change_is_vain_or_committed policy state change with ⟨-, hnext, hcalls⟩ | ⟨hnot, -⟩
  · exact ⟨hnext, hcalls⟩
  · cases hnot.symm.trans h

/-! ## One move with and without its crowd -/

theorem isCalm_alone (move : Move σ) : move.alone.IsCalm := by
  cases move with
  | operate op i => exact Interference.isCalm_none
  | inspect => trivial
  | drain count => trivial
  | closeEvents => trivial

theorem contending_alone (move : Move σ) (call : Call σ) : move.alone.contending call = [] := by
  cases move <;> rfl

theorem isChange_alone (move : Move σ) : move.alone.isChange = move.isChange := by
  cases move with
  | operate op i => cases op <;> rfl
  | inspect => rfl
  | drain count => rfl
  | closeEvents => rfl

theorem effect_outcome_of_isCalm {k : Coordinator σ} (h : k.lock ≠ .held) {move : Move σ}
    (hcalm : move.IsCalm) :
    (move.outcome k).effect =
      (move.callsDue k.policy k.state, move.eventsDue k.policy k.state,
        move.next k.policy k.state) := by
  rw [Outcome.effect, callsIn_outcome_of_isCalm h hcalm, eventsIn_outcome_of_isCalm h hcalm,
    state_outcome_of_isCalm h hcalm]

variable {k k' : Coordinator σ}

theorem effect_outcome_alone (h : k.lock ≠ .held) (h' : k'.lock ≠ .held)
    (hpolicy : k'.policy = k.policy) (hstate : k'.state = k.state) {move : Move σ}
    (hcalm : move.IsCalm) : (move.alone.outcome k').effect = (move.outcome k).effect := by
  rw [effect_outcome_of_isCalm h hcalm, effect_outcome_of_isCalm h' move.isCalm_alone, hpolicy,
    hstate]
  cases move <;> rfl

theorem isVain_outcome (h : k.lock ≠ .held) {move : Move σ} (hcalm : move.IsCalm) :
    (move.outcome k).isVain = (move.eventsDue k.policy k.state).any Event.isSetback := by
  rw [Outcome.isVain, eventsIn_outcome_of_isCalm h hcalm]

theorem of_isVain_outcome (h : k.lock ≠ .held) {move : Move σ} (hcalm : move.IsCalm)
    (hvain : (move.outcome k).isVain = true) :
    move.isChange = true ∧ callsIn (move.outcome k).trace = [] ∧
      (move.outcome k).coordinator.state = k.state := by
  rw [isVain_outcome h hcalm] at hvain
  obtain ⟨hnext, hcalls⟩ := next_of_isSetback hvain
  rw [callsIn_outcome_of_isCalm h hcalm, state_outcome_of_isCalm h hcalm]
  obtain ⟨change, i, rfl⟩ := eq_change_of_isSetback hvain
  exact ⟨rfl, hcalls, hnext⟩

end Move

/-! ## Two runs -/

theorem effective_cons_of_isVain {k : Coordinator σ} {move : Move σ}
    (h : (move.outcome k).isVain = true) (rest : List (Move σ)) :
    effective (move :: rest) k = effective rest (move.outcome k).coordinator := by
  simp [effective, h]

theorem effective_cons_of_not_isVain {k : Coordinator σ} {move : Move σ}
    (h : (move.outcome k).isVain = false) (rest : List (Move σ)) :
    effective (move :: rest) k = move.alone :: effective rest (move.outcome k).coordinator := by
  simp [effective, h]

theorem effects_effective {moves : List (Move σ)} {k k' : Coordinator σ} (h : k.lock ≠ .held)
    (h' : k'.lock ≠ .held) (hpolicy : k'.policy = k.policy) (hstate : k'.state = k.state)
    (hcalm : ∀ move ∈ moves, move.IsCalm) :
    (outcomes (effective moves k) k').map Outcome.effect =
        ((outcomes moves k).filter fun outcome => !outcome.isVain).map Outcome.effect ∧
      callsIn (history (effective moves k) k') = callsIn (history moves k) ∧
      (after (effective moves k) k').state = (after moves k).state := by
  induction moves generalizing k k' with
  | nil => exact ⟨rfl, rfl, hstate⟩
  | cons move rest ih =>
    obtain ⟨hmove, hrest⟩ := List.forall_mem_cons.mp hcalm
    have hlock := move.lock_outcome_ne_held h
    have hfixed : (move.outcome k).coordinator.policy = k.policy := move.policy_outcome k
    cases hvain : (move.outcome k).isVain with
    | true =>
      -- the change is deleted: the other run waits, and this one stays in the same state
      obtain ⟨-, hcalls, hsame⟩ := Move.of_isVain_outcome h hmove hvain
      rw [effective_cons_of_isVain hvain, outcomes, List.filter_cons_of_neg (by simp [hvain]),
        history_cons, callsIn_append, hcalls, List.nil_append, after_cons]
      exact ih hlock h' (hpolicy.trans hfixed.symm) (hstate.trans hsame.symm) hrest
    | false =>
      -- both runs move, and an effect depends on nothing but policy and state
      have heffect := Move.effect_outcome_alone h h' hpolicy hstate hmove
      have hcalls : callsIn (move.alone.outcome k').trace = callsIn (move.outcome k).trace :=
        congrArg Prod.fst heffect
      have hnext : (move.alone.outcome k').coordinator.state =
          (move.outcome k).coordinator.state := congrArg (fun effect => effect.2.2) heffect
      have hkeeps : (move.alone.outcome k').coordinator.policy =
          (move.outcome k).coordinator.policy := by
        rw [Move.policy_outcome, Move.policy_outcome, hpolicy]
      obtain ⟨heffects, hlater, hlast⟩ :=
        ih hlock (move.alone.lock_outcome_ne_held h') hkeeps hnext hrest
      rw [effective_cons_of_not_isVain hvain, outcomes, outcomes,
        List.filter_cons_of_pos (by simp [hvain]), history_cons, history_cons, callsIn_append,
        callsIn_append, after_cons, after_cons]
      refine ⟨?_, ?_, hlast⟩
      · rw [List.map_cons, List.map_cons, heffect, heffects]
      · rw [hcalls, hlater]

theorem filter_effective {moves : List (Move σ)} {k : Coordinator σ} (h : k.lock ≠ .held)
    (hcalm : ∀ move ∈ moves, move.IsCalm) :
    (effective moves k).filter (fun move => !move.isChange) =
      (moves.map Move.alone).filter fun move => !move.isChange := by
  induction moves generalizing k with
  | nil => rfl
  | cons move rest ih =>
    obtain ⟨hmove, hrest⟩ := List.forall_mem_cons.mp hcalm
    have hlater := ih (move.lock_outcome_ne_held h) hrest
    rw [List.map_cons]
    cases hvain : (move.outcome k).isVain with
    | true =>
      obtain ⟨hchange, -, -⟩ := Move.of_isVain_outcome h hmove hvain
      rw [effective_cons_of_isVain hvain, hlater, List.filter_cons_of_neg]
      simp [Move.isChange_alone, hchange]
    | false =>
      rw [effective_cons_of_not_isVain hvain, List.filter_cons, List.filter_cons, hlater]

theorem exists_alone_of_mem_effective {moves : List (Move σ)} {k : Coordinator σ} {move : Move σ}
    (h : move ∈ effective moves k) : ∃ crowded ∈ moves, move = crowded.alone := by
  induction moves generalizing k with
  | nil => cases h
  | cons first rest ih =>
    rcases List.mem_append.mp h with h | h
    · split at h
      · cases h
      · exact ⟨first, List.mem_cons_self, List.mem_singleton.mp h⟩
    · obtain ⟨crowded, hmem, hcrowded⟩ := ih h
      exact ⟨crowded, List.mem_cons_of_mem first hmem, hcrowded⟩

theorem droppedIn_history_of_alone {moves : List (Move σ)} {k : Coordinator σ}
    (h : k.lock ≠ .held) (halone : ∀ move ∈ moves, ∀ call, move.contending call = []) :
    droppedIn (history moves k) = [] := by
  induction moves generalizing k with
  | nil => rfl
  | cons move rest ih =>
    obtain ⟨hmove, hrest⟩ := List.forall_mem_cons.mp halone
    rw [history_cons, droppedIn_append, move.droppedIn_outcome h,
      ih (move.lock_outcome_ne_held h) hrest]
    simp [hmove]

theorem isVain_eq_of_effect {outcome outcome' : Outcome σ} (h : outcome.effect = outcome'.effect) :
    outcome.isVain = outcome'.isVain :=
  congrArg (fun effect => effect.2.1.any Event.isSetback) h

/-- Every change that is left is committed. -/
theorem committed_of_mem_effective {moves : List (Move σ)} {k : Coordinator σ} (h : k.lock ≠ .held)
    (hcalm : ∀ move ∈ moves, move.IsCalm) {front back : List (Move σ)} {change : Change}
    {i : Interference σ}
    (hkept : effective moves k = front ++ .operate (.change change) i :: back) :
    ∃ snapshot, change.snapshot? k.policy = some snapshot ∧
      .snapshotCommitted snapshot ∈
        eventsIn ((Move.operate (.change change) i).outcome (after front k)).trace := by
  obtain ⟨heffects, -, -⟩ := effects_effective h h rfl rfl hcalm
  let outcome := (Move.operate (.change change) i).outcome (after front k)
  have hmem : outcome ∈ outcomes (effective moves k) k := by
    rw [hkept, outcomes_append]
    exact List.mem_append_right _ List.mem_cons_self
  have hvain : outcome.isVain = false := by
    -- the effects that are left are those of moves that did not come to nothing
    have hfound : outcome.effect ∈ (outcomes (effective moves k) k).map Outcome.effect :=
      List.mem_map_of_mem hmem
    rw [heffects] at hfound
    obtain ⟨original, horiginal, heffect⟩ := List.mem_map.mp hfound
    rw [isVain_eq_of_effect heffect.symm]
    simpa using (List.mem_filter.mp horiginal).2
  have hlock : (after front k).lock ≠ .held := lock_after_ne_held h front
  have hi : (Move.operate (.change change) i).IsCalm := by
    obtain ⟨crowded, -, halone⟩ := exists_alone_of_mem_effective (k := k)
      (hkept ▸ List.mem_append_right front List.mem_cons_self)
    exact halone ▸ crowded.isCalm_alone
  rw [Move.isVain_outcome hlock hi] at hvain
  rw [Move.eventsIn_outcome_of_isCalm hlock hi, ← policy_after front k]
  rcases change_is_vain_or_committed (after front k).policy (after front k).state change with
    ⟨hsetback, -⟩ | ⟨-, hcommitted⟩
  · cases hvain.symm.trans hsetback
  · exact hcommitted

/-- Without a panic, a run makes the same calls and goes through the same states as what is left of
it without the changes that came to nothing: those that came during calls, all of which were
dropped, and those that found no session or were discarded. What is left are the other moves and
changes that are committed, one after another. The same is left of any interleaving. -/
theorem ineffective_changes_leave_no_trace {settings : Settings} {start : Coordinator σ}
    (hstart : Coordinator.new settings = .ok start) :
    (∀ moves, (∀ move ∈ moves, move.IsCalm) →
      let kept := effective moves start
      (∀ front move back, moves = front ++ move :: back →
        let outcome := move.outcome (after front start)
        droppedIn outcome.trace = (callsIn outcome.trace).flatMap fun call =>
          (move.contending call).map Change.identity) ∧
      (outcomes kept start).map Outcome.effect =
        ((outcomes moves start).filter fun outcome => !outcome.isVain).map Outcome.effect ∧
      callsIn (history kept start) = callsIn (history moves start) ∧
      (after kept start).state = (after moves start).state ∧
      (kept.filter fun move => !move.isChange) =
        ((moves.map Move.alone).filter fun move => !move.isChange) ∧
      droppedIn (history kept start) = [] ∧
      ∀ front change i back, kept = front ++ .operate (.change change) i :: back →
        ∃ snapshot, change.snapshot? settings.policy = some snapshot ∧
          .snapshotCommitted snapshot ∈
            eventsIn ((Move.operate (.change change) i).outcome (after front start)).trace) ∧
    ∀ turns, .panic ∉ turns → (sceneAfter turns ⟨start, none⟩).visit = none →
      let kept := effective (entered turns ⟨start, none⟩) start
      callsIn (traceOf turns ⟨start, none⟩) = callsIn (history kept start) ∧
        (sceneAfter turns ⟨start, none⟩).coordinator.state = (after kept start).state := by
  have hlock : start.lock ≠ .held := lock_after_new hstart []
  have hpolicy : start.policy = settings.policy := policy_after_new hstart []
  constructor
  · intro moves hcalm kept
    obtain ⟨heffects, hcalls, hstate⟩ := effects_effective hlock hlock rfl rfl hcalm
    refine ⟨?_, heffects, hcalls, hstate, filter_effective hlock hcalm, ?_, ?_⟩
    · intro front move back _ outcome
      exact move.droppedIn_outcome (lock_after_new hstart front)
    · apply droppedIn_history_of_alone hlock
      intro move hmem
      obtain ⟨crowded, -, rfl⟩ := exists_alone_of_mem_effective hmem
      exact crowded.contending_alone
    · intro front change i back hkept
      rw [← hpolicy]
      exact committed_of_mem_effective hlock hcalm hkept
  · intro turns hcalm hleft kept
    obtain ⟨hstate, hcalls⟩ := interleaving_is_sequential hlock hcalm hleft
    have hmoves : ∀ move ∈ entered turns ⟨start, none⟩, move.IsCalm :=
      fun _ => isCalm_of_mem_entered
    obtain ⟨-, hkeptCalls, hkeptState⟩ := effects_effective hlock hlock rfl rfl hmoves
    exact ⟨hcalls.trans hkeptCalls.symm, hstate.trans hkeptState.symm⟩

/-- A change without a session, one that is discarded, and others during every call; then another
one that meets an attachment. -/
theorem crowded_run_is_that_of_what_is_left :
    let start : Coordinator String := ⟨.reject, .new 4, .initial, .free⟩
    let wifi : Change := ⟨⟨"wifi"⟩, ["1.1.1.1"]⟩
    let cell : Change := ⟨⟨"cell"⟩, ["8.8.8.8"]⟩
    let crowd : Interference String := ⟨fun _ => [wifi], fun _ => false⟩
    let moves : List (Move String) :=
      [.operate (.change wifi) .none, .operate (.attach "s") crowd,
        .operate (.change ⟨⟨"lan"⟩, ["?"]⟩) .none, .operate (.change cell) crowd]
    let turns : List (Turn String) :=
      .arrive (.operate (.attach "s")) ::
        (List.replicate 3 .proceed ++ .ofChange wifi :: List.replicate 5 .proceed)
    let kept := effective moves start
    Coordinator.new ⟨.reject, 4⟩ = .ok start ∧ (∀ move ∈ moves, move.IsCalm) ∧
      .panic ∉ turns ∧ (sceneAfter turns ⟨start, none⟩).visit = none ∧ kept.length = 2 ∧
      callsIn (history kept start) =
        [.command "s" (.setStatus .connecting), .command "s" (.setStatus .up), .notify .connected,
          .command "s" (.setServers [.v4 ⟨8, 8, 8, 8⟩]), .command "s" .reconnect] ∧
      callsIn (traceOf turns ⟨start, none⟩) =
        callsIn (history (effective (entered turns ⟨start, none⟩) start) start) := by
  intro start wifi cell crowd moves turns kept
  have hstart : Coordinator.new ⟨.reject, 4⟩ = .ok start := rfl
  have hcalm : ∀ move ∈ moves, move.IsCalm := by
    simp [moves, Move.IsCalm, Interference.IsCalm, crowd, Interference.none]
  have hpanic : .panic ∉ turns := by decide +kernel
  have hleft : (sceneAfter turns ⟨start, none⟩).visit = none := by rfl
  obtain ⟨hmoves, hturns⟩ := ineffective_changes_leave_no_trace hstart
  obtain ⟨-, -, hcalls, -⟩ := hmoves moves hcalm
  refine ⟨hstart, hcalm, hpanic, hleft, ?_, ?_, (hturns turns hpanic hleft).1⟩
  · decide +kernel
  · rw [hcalls]
    decide +kernel

end PathKeeper.Coordinator
