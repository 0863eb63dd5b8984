import PathKeeper.Proofs.Coordinator.Run

/-!
# What a panic leaves

The operation after a panic goes on with the state that was last written. That is the state before
or the state after the operation that panicked, except for two operations: a detachment, and a
change that finds the session not yet up. They write the new status ahead of their calls and the
rest behind them, so a panic between leaves the new status with the old session and snapshot.
-/

namespace PathKeeper.Coordinator

set_option autoImplicit false

variable {σ : Type}

def Operation.attaches : Operation σ → Bool
  | .attach _ => true
  | _ => false

def Move.attaches : Move σ → Bool
  | .operate op _ => op.attaches
  | _ => false

/-! ## States without a session -/

/-- Without a session there is nothing to remember. -/
def State.IsSound (state : State σ) : Prop := state.session = none → state = .initial

theorem State.isSound_next {state : State σ} (h : state.IsSound) (policy : Policy)
    (op : Operation σ) : (state.next policy op).IsSound := by
  intro hnone
  cases op with
  | change change =>
    simp only [State.next] at hnone ⊢
    split
    · next hs hc => simp [hs, hc] at hnone
    · next hno =>
      split at hnone
      · cases hnone
      · exact h hnone
  | attach session => cases hnone
  | detach => rfl
  | loseTransport =>
    cases hs : state.session with
    | none => simpa [State.next, hs] using h hs
    | some session => simp [State.next, hs] at hnone
  | fail reason =>
    cases hs : state.session with
    | none => simpa [State.next, hs] using h hs
    | some session => simp [State.next, hs] at hnone

theorem callsDue_initial (policy : Policy) {op : Operation σ}
    (h : op.attaches = false) : callsDue policy .initial op = [] := by
  cases op with
  | attach session => cases h
  | change change => rfl
  | detach => rfl
  | loseTransport => rfl
  | fail reason => rfl

theorem State.next_initial (policy : Policy) {op : Operation σ} (h : op.attaches = false) :
    State.initial.next policy op = .initial := by
  cases op with
  | attach session => cases h
  | change change => rfl
  | detach => rfl
  | loseTransport => rfl
  | fail reason => rfl

theorem State.cut_of_not_attaches (state : State σ) {op : Operation σ} (h : op.attaches = false) :
    (state.cut op).session = state.session ∧ (state.cut op).last = state.last := by
  cases op with
  | attach session => cases h
  | change change => exact ⟨rfl, rfl⟩
  | detach => exact ⟨rfl, rfl⟩
  | loseTransport => exact ⟨rfl, rfl⟩
  | fail reason => exact ⟨rfl, rfl⟩

theorem callsOf_ne_nil_of_isCut {i : Interference σ} {actions : List (Action σ)}
    (h : isCut i actions = true) : callsOf actions ≠ [] := by
  induction actions with
  | nil => cases h
  | cons action rest ih =>
    cases action with
    | call call => simp
    | note note => simpa using ih h
    | write state => simpa using ih h
    | emit event => simpa using ih h

section Panics

variable {k : Coordinator σ} {i : Interference σ} {op : Operation σ}

theorem callsDue_ne_nil_of_panics (h : k.lock ≠ .held)
    (hpanics : (k.operate i op).panicked = true) : callsDue k.policy k.state op ≠ [] := by
  rw [panicked_operate h] at hpanics
  rw [← callsOf_script]
  exact callsOf_ne_nil_of_isCut hpanics

theorem session_ne_none_of_panics (h : k.lock ≠ .held) (hsound : k.state.IsSound)
    (hpanics : (k.operate i op).panicked = true) (hop : op.attaches = false) :
    k.state.session ≠ none := by
  intro hnone
  have hcalls := callsDue_ne_nil_of_panics h hpanics
  rw [hsound hnone] at hcalls
  exact hcalls (callsDue_initial k.policy hop)

theorem isSound_outcome (h : k.lock ≠ .held) (hsound : k.state.IsSound) (move : Move σ) :
    (move.outcome k).coordinator.state.IsSound := by
  cases move with
  | operate op i =>
    change (k.operate i op).coordinator.state.IsSound
    cases hpanicked : (k.operate i op).panicked with
    | false =>
      rw [state_operate_of_returns h hpanicked]
      exact State.isSound_next hsound k.policy op
    | true =>
      rw [state_operate_of_panics h hpanicked]
      intro hnone
      cases hattaches : op.attaches with
      | true =>
        cases op with
        | attach session => cases hnone
        | change change => cases hattaches
        | detach => cases hattaches
        | loseTransport => cases hattaches
        | fail reason => cases hattaches
      | false =>
        rw [(State.cut_of_not_attaches k.state hattaches).1] at hnone
        exact absurd hnone (session_ne_none_of_panics h hsound hpanicked hattaches)
  | inspect =>
    rw [Move.state_outcome_inspect]
    exact hsound
  | drain count => exact hsound
  | closeEvents => exact hsound

end Panics

theorem isSound_after {k : Coordinator σ} (h : k.lock ≠ .held) (hsound : k.state.IsSound)
    (moves : List (Move σ)) : (after moves k).state.IsSound := by
  induction moves generalizing k with
  | nil => exact hsound
  | cons move rest ih => exact ih (move.lock_outcome_ne_held h) (isSound_outcome h hsound move)

theorem isSound_after_new {settings : Settings} {start : Coordinator σ}
    (hstart : Coordinator.new settings = .ok start) (moves : List (Move σ)) :
    (after moves start).state.IsSound := by
  apply isSound_after
  · simp [new_eq hstart]
  · rw [new_eq hstart]
    exact fun _ => rfl

/-! ## Whole states -/

/-- A change that is cut short leaves a whole state only if the session is up already or it brings
the snapshot that is in place. -/
theorem State.cut_change_whole_iff {policy : Policy} {state : State σ} {change : Change}
    {session : σ} {snapshot : Snapshot} (hs : state.session = some session)
    (hc : change.snapshot? policy = some snapshot) :
    (state.cut (.change change) = state ∨
        state.cut (.change change) = state.next policy (.change change)) ↔
      state.status = .up ∨ change.snapshot? policy = state.last := by
  obtain ⟨status, _, last⟩ := state
  cases hs
  simp [State.cut, State.next, hc, eq_comm]

/-- A detachment that is cut short never leaves a whole state. -/
theorem State.cut_detach_not_whole {state : State σ} (policy : Policy)
    (hsession : state.session ≠ none) (hstatus : state.status ≠ .down) :
    ¬ (state.cut .detach = state ∨ state.cut .detach = state.next policy .detach) := by
  rintro (hbefore | hafter)
  · exact hstatus (congrArg State.status hbefore).symm
  · exact hsession (congrArg State.session hafter)

/-- The other operations have written everything before their first call. -/
theorem State.cut_eq_next {state : State σ} (policy : Policy) {op : Operation σ}
    (hsession : op.attaches = false → state.session ≠ none) (hdetach : op ≠ .detach)
    (hchange : ∀ change, op ≠ .change change) : state.cut op = state.next policy op := by
  cases op with
  | change change => exact absurd rfl (hchange change)
  | attach session => rfl
  | detach => exact absurd rfl hdetach
  | loseTransport =>
    have hsome : state.session ≠ none := hsession rfl
    simp [State.cut, State.next, hsome]
  | fail reason =>
    have hsome : state.session ≠ none := hsession rfl
    simp [State.cut, State.next, hsome]

/-- The state that is recovered after a panic has the status that the operation moves to, and the
session and snapshot from before, unless a session was attached. It is a whole state, that before
or that after the operation, exactly if the operation is no detachment and no change that finds the
session not up and brings another snapshot. -/
theorem recovered_state_is_whole_iff {settings : Settings} {start : Coordinator σ}
    (hstart : Coordinator.new settings = .ok start) (moves : List (Move σ)) (op : Operation σ)
    (i : Interference σ) (hpanics : ((after moves start).operate i op).panicked = true) :
    let before := after moves start
    let calm : Interference σ := ⟨i.contending, fun _ => false⟩
    let recovered := (before.operate i op).coordinator.inspect.1
    recovered = before.state.cut op ∧
      ((recovered = before.inspect.1 ∨
          recovered = (before.operate calm op).coordinator.inspect.1) ↔
        op ≠ .detach ∧ ∀ change, op = .change change →
          before.state.status = .up ∨ change.snapshot? settings.policy = before.state.last) := by
  intro before calm recovered
  have hlock : before.lock ≠ .held := lock_after_new hstart moves
  have hpolicy : before.policy = settings.policy := policy_after_new hstart moves
  have hsound : before.state.IsSound := isSound_after_new hstart moves
  have hrecovered : recovered = before.state.cut op := by
    rw [← state_operate_of_panics hlock hpanics]
    exact inspect_fst _
  have hafter : (before.operate calm op).coordinator.inspect.1 =
      before.state.next settings.policy op := by
    rw [inspect_fst, ← hpolicy]
    exact state_operate_of_returns hlock (panicked_operate_of_isCalm hlock (fun _ => rfl) op)
  have hcalls := callsDue_ne_nil_of_panics hlock hpanics
  have hsession := session_ne_none_of_panics hlock hsound hpanics
  refine ⟨hrecovered, ?_⟩
  rw [hafter, hrecovered, inspect_fst]
  rw [hpolicy] at hcalls
  cases op with
  | change change =>
    obtain ⟨session, hs⟩ := Option.ne_none_iff_exists'.mp (hsession rfl)
    obtain ⟨snapshot, hc⟩ : ∃ snapshot, change.snapshot? settings.policy = some snapshot := by
      cases hc : change.snapshot? settings.policy with
      | none => simp [callsDue, hs, hc] at hcalls
      | some snapshot => exact ⟨snapshot, rfl⟩
    simpa using State.cut_change_whole_iff hs hc
  | detach =>
    have hstatus : before.state.status ≠ .down := by
      intro hdown
      simp [callsDue, reports, hdown] at hcalls
    simpa using State.cut_detach_not_whole settings.policy (hsession rfl) hstatus
  | attach session =>
    have hwhole := State.cut_eq_next settings.policy hsession (by simp) (by simp)
    simp [hwhole]
  | loseTransport =>
    have hwhole := State.cut_eq_next settings.policy hsession (by simp) (by simp)
    simp [hwhole]
  | fail reason =>
    have hwhole := State.cut_eq_next settings.policy hsession (by simp) (by simp)
    simp [hwhole]

/-- A session that does not survive the first change it could hear of. -/
theorem fresh_session_that_panics_is_recovered_in_part :
    let start : Coordinator String := ⟨.skip, .new 4, .initial, .free⟩
    let wifi : Change := ⟨⟨"wifi"⟩, ["1.1.1.1"]⟩
    let broken : Interference String := ⟨fun _ => [], (· = .command "s" .reconnect)⟩
    let before := after [.operate (.attach "s") .none] start
    let outcome := before.operate broken (.change wifi)
    Coordinator.new ⟨.skip, 4⟩ = .ok start ∧ outcome.panicked = true ∧
      outcome.coordinator.inspect.1 = ⟨.up, some "s", none⟩ := by
  intro start wifi broken before outcome
  have hstart : Coordinator.new ⟨.skip, 4⟩ = .ok start := rfl
  have hpanics : outcome.panicked = true := by decide +kernel
  have hrecovered := recovered_state_is_whole_iff hstart [.operate (.attach "s") .none]
    (.change wifi) broken hpanics
  have hcut : before.state.cut (.change wifi) = ⟨.up, some "s", none⟩ := by decide +kernel
  exact ⟨hstart, hpanics, hrecovered.1.trans hcut⟩

/-- It is neither the state before nor the state after the change. -/
theorem recovered_state_can_be_mixed :
    let start : Coordinator String := ⟨.skip, .new 4, .initial, .free⟩
    let wifi : Change := ⟨⟨"wifi"⟩, ["1.1.1.1"]⟩
    let broken : Interference String := ⟨fun _ => [], (· = .command "s" .reconnect)⟩
    let before := after [.operate (.attach "s") .none] start
    let outcome := before.operate broken (.change wifi)
    Coordinator.new ⟨.skip, 4⟩ = .ok start ∧ outcome.panicked = true ∧
      outcome.coordinator.inspect.1 = ⟨.up, some "s", none⟩ ∧
      before.inspect.1 = ⟨.connecting, some "s", none⟩ ∧
      (before.operate .none (.change wifi)).coordinator.inspect.1 =
        ⟨.up, some "s", some ⟨⟨"wifi"⟩, [.v4 ⟨1, 1, 1, 1⟩]⟩⟩ := by
  intro start wifi broken before outcome
  have hstart : Coordinator.new ⟨.skip, 4⟩ = .ok start := rfl
  refine ⟨hstart, ?_, ?_, ?_, ?_⟩
  · decide +kernel
  · decide +kernel
  · decide +kernel
  · decide +kernel

end PathKeeper.Coordinator
