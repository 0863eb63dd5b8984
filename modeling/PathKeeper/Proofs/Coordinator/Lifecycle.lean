import PathKeeper.Proofs.Coordinator.Run

/-!
# The life of a session

As long as nothing panics, the status says whether there is a session and what is known of its
network: it is down exactly without a session, a snapshot belongs to a session, and a session that
is up has one.
-/

namespace PathKeeper.Coordinator

set_option autoImplicit false

variable {σ : Type}

/-- What the fields of a state say of each other. -/
structure State.IsOrderly (state : State σ) : Prop where
  session_eq_none_iff : state.session = none ↔ state.status = .down
  session_ne_none_of_last : state.last ≠ none → state.session ≠ none
  last_ne_none_of_up : state.status = .up → state.last ≠ none

namespace State

theorem isOrderly_initial : (initial : State σ).IsOrderly where
  session_eq_none_iff := by simp [initial]
  session_ne_none_of_last := fun h => absurd rfl h
  last_ne_none_of_up := fun h => by cases h

theorem isOrderly_attached (session : σ) :
    (⟨.connecting, some session, none⟩ : State σ).IsOrderly where
  session_eq_none_iff := by simp
  session_ne_none_of_last := fun h => absurd rfl h
  last_ne_none_of_up := fun h => by cases h

theorem isOrderly_committed (session : σ) (snapshot : Snapshot) :
    (⟨.up, some session, some snapshot⟩ : State σ).IsOrderly where
  session_eq_none_iff := by simp
  session_ne_none_of_last := by simp
  last_ne_none_of_up := by simp

/-- A session may lose its transport or fail at any time and remembers its snapshot. -/
theorem IsOrderly.with_status {state : State σ} (h : state.IsOrderly) {status : SessionStatus}
    (hsession : state.session ≠ none) (hdown : status ≠ .down) (hup : status ≠ .up) :
    ({ state with status := status } : State σ).IsOrderly where
  session_eq_none_iff := by simp [hsession, hdown]
  session_ne_none_of_last := h.session_ne_none_of_last
  last_ne_none_of_up := fun hstatus => absurd hstatus hup

theorem IsOrderly.next {state : State σ} (h : state.IsOrderly) (policy : Policy)
    (op : Operation σ) : (state.next policy op).IsOrderly := by
  cases op with
  | change change =>
    simp only [State.next]
    split
    · exact isOrderly_committed _ _
    · exact h
  | attach session => exact isOrderly_attached session
  | detach => exact isOrderly_initial
  | loseTransport =>
    simp only [State.next]
    split
    · exact h
    · next hsome => exact h.with_status (by simpa using hsome) (by simp) (by simp)
  | fail reason =>
    simp only [State.next]
    split
    · exact h
    · next hsome => exact h.with_status (by simpa using hsome) (by simp) (by simp)

end State

theorem Move.isOrderly_next {policy : Policy} {state : State σ} (h : state.IsOrderly)
    (move : Move σ) : (move.next policy state).IsOrderly := by
  cases move with
  | operate op i => exact h.next policy op
  | inspect => exact h
  | drain count => exact h
  | closeEvents => exact h

theorem isOrderly_stateAfter (policy : Policy) {state : State σ} (h : state.IsOrderly)
    (moves : List (Move σ)) : (stateAfter policy state moves).IsOrderly := by
  induction moves generalizing state with
  | nil => exact h
  | cons move rest ih => exact ih (move.isOrderly_next h)

theorem isOrderly_new {settings : Settings} {start : Coordinator σ}
    (hstart : Coordinator.new settings = .ok start) : start.state.IsOrderly := by
  rw [new_eq hstart]
  exact State.isOrderly_initial

/-- Whatever is done to a coordinator without a panic, and whatever comes during calls: there is no
session exactly while the status is down, a last snapshot only with a session, and the status is up
only with a last snapshot. -/
theorem state_is_orderly {settings : Settings} {start : Coordinator σ}
    (hstart : Coordinator.new settings = .ok start) {moves : List (Move σ)}
    (hcalm : ∀ move ∈ moves, move.IsCalm) :
    let state := (after moves start).inspect.1
    (state.session = none ↔ state.status = .down) ∧
      (state.last ≠ none → state.session ≠ none) ∧ (state.status = .up → state.last ≠ none) := by
  intro state
  have hstate : state = stateAfter start.policy start.state moves :=
    (inspect_fst _).trans (state_after_of_isCalm (lock_after_new hstart []) hcalm)
  have horderly : state.IsOrderly := hstate ▸ isOrderly_stateAfter _ (isOrderly_new hstart) moves
  exact ⟨horderly.session_eq_none_iff, horderly.session_ne_none_of_last,
    horderly.last_ne_none_of_up⟩

/-- A session that is replaced before it was up, a list that is discarded, other changes during the
calls, and a failure after all. -/
theorem replaced_session_is_orderly :
    let start : Coordinator String := ⟨.reject, .new 2, .initial, .free⟩
    let wifi : Change := ⟨⟨"wifi"⟩, ["1.1.1.1"]⟩
    let crowd : Interference String := ⟨fun _ => [wifi, wifi], fun _ => false⟩
    let moves : List (Move String) :=
      [.operate (.change wifi) crowd, .operate (.attach "a") crowd, .operate (.fail "gone") crowd,
        .operate (.attach "b") crowd, .operate (.change ⟨⟨"cell"⟩, ["::1", "%"]⟩) crowd,
        .operate (.change wifi) crowd, .inspect, .operate .loseTransport crowd]
    let state := (after moves start).inspect.1
    Coordinator.new ⟨.reject, 2⟩ = .ok start ∧ (∀ move ∈ moves, move.IsCalm) ∧
      state = ⟨.connecting, some "b", some ⟨⟨"wifi"⟩, [.v4 ⟨1, 1, 1, 1⟩]⟩⟩ ∧
      (state.session = none ↔ state.status = .down) ∧
      (state.last ≠ none → state.session ≠ none) ∧ (state.status = .up → state.last ≠ none) := by
  intro start wifi crowd moves state
  have hstart : Coordinator.new ⟨.reject, 2⟩ = .ok start := rfl
  have hcalm : ∀ move ∈ moves, move.IsCalm := by
    simp [moves, Move.IsCalm, Interference.IsCalm, crowd]
  have hstate : state = ⟨.connecting, some "b", some ⟨⟨"wifi"⟩, [.v4 ⟨1, 1, 1, 1⟩]⟩⟩ := by
    decide +kernel
  exact ⟨hstart, hcalm, hstate, state_is_orderly hstart hcalm⟩

end PathKeeper.Coordinator
