import PathKeeper.Proofs.Coordinator.Effect
import PathKeeper.Proofs.Coordinator.Traces

/-!
# Runs

A run is a list of moves: operations with what comes between, looks at the state, and what the
observer of the events does. A calm move, in which nothing panics, acts on the state as if it were
alone; the changes that come during its calls are lost and leave no trace in state or calls.
-/

namespace PathKeeper.Coordinator

set_option autoImplicit false

variable {σ : Type}

/-! ## Operations -/

theorem inspect_fst (k : Coordinator σ) : k.inspect.1 = k.state := by
  cases hlock : k.lock <;> simp [inspect, hlock]

section Operations

variable {k : Coordinator σ}

theorem operate_of_not_held (h : k.lock ≠ .held) (i : Interference σ) (op : Operation σ) :
    k.operate i op = k.exclusively i op := by
  cases hlock : k.lock with
  | held => exact absurd hlock h
  | free => simp [operate, hlock]
  | poisoned => simp [operate, hlock]

theorem operate_of_held (h : k.lock = .held) (i : Interference σ)
    {op : Operation σ} (hop : ∀ change, op ≠ .change change) : k.operate i op = ⟨k, [], false⟩ := by
  cases op with
  | change change => exact absurd rfl (hop change)
  | attach session => simp [operate, h]
  | detach => simp [operate, h]
  | loseTransport => simp [operate, h]
  | fail reason => simp [operate, h]

theorem operate_change_of_held (h : k.lock = .held) (i : Interference σ)
    (change : Change) : k.operate i (.change change) = k.refuse change := by
  simp [operate, h]

theorem inspect_of_not_held (h : k.lock ≠ .held) :
    k.inspect.2 = ⟨{ k with lock := .free }, k.recovery, false⟩ := by
  obtain ⟨policy, channel, state, lock⟩ := k
  cases lock with
  | held => exact absurd rfl h
  | free => rfl
  | poisoned => rfl

theorem callsIn_operate (h : k.lock ≠ .held) (i : Interference σ) (op : Operation σ) :
    callsIn (k.operate i op).trace = callsOf (carriedOut i (script k.policy k.state op)) := by
  rw [operate_of_not_held h]
  simp [exclusively, callsIn_perform]

theorem eventsIn_operate (h : k.lock ≠ .held) (i : Interference σ) (op : Operation σ) :
    eventsIn (k.operate i op).trace = eventsOf (carriedOut i (script k.policy k.state op)) := by
  rw [operate_of_not_held h]
  simp [exclusively, eventsIn_perform i (any_isRefusal_script k.policy k.state op)]

theorem droppedIn_operate (h : k.lock ≠ .held) (i : Interference σ) (op : Operation σ) :
    droppedIn (k.operate i op).trace =
      (callsIn (k.operate i op).trace).flatMap fun call =>
        (i.contending call).map Change.identity := by
  rw [callsIn_operate h, operate_of_not_held h]
  simp [exclusively, droppedIn_perform i (any_isRefusal_script k.policy k.state op)]

theorem panicked_operate (h : k.lock ≠ .held) (i : Interference σ) (op : Operation σ) :
    (k.operate i op).panicked = isCut i (script k.policy k.state op) := by
  rw [operate_of_not_held h]
  exact panicked_perform i _ _

theorem state_operate (h : k.lock ≠ .held) (i : Interference σ) (op : Operation σ) :
    (k.operate i op).coordinator.state =
      settled k.state (carriedOut i (script k.policy k.state op)) := by
  rw [operate_of_not_held h]
  exact state_perform i _ _

theorem policy_operate (i : Interference σ) (op : Operation σ) :
    (k.operate i op).coordinator.policy = k.policy := by
  unfold operate
  split
  · rfl
  · rfl
  · exact policy_perform i _ _

theorem lock_operate_ne_held (h : k.lock ≠ .held) (i : Interference σ) (op : Operation σ) :
    (k.operate i op).coordinator.lock ≠ .held := by
  rw [operate_of_not_held h]
  exact lock_exclusively_ne_held i op k

theorem state_operate_of_returns (h : k.lock ≠ .held) {i : Interference σ} {op : Operation σ}
    (hreturns : (k.operate i op).panicked = false) :
    (k.operate i op).coordinator.state = k.state.next k.policy op := by
  rw [panicked_operate h] at hreturns
  rw [state_operate h, carriedOut_of_not_isCut hreturns, settled_script]

theorem state_operate_of_panics (h : k.lock ≠ .held) {i : Interference σ} {op : Operation σ}
    (hpanics : (k.operate i op).panicked = true) :
    (k.operate i op).coordinator.state = k.state.cut op := by
  rw [panicked_operate h] at hpanics
  rw [state_operate h, settled_carriedOut_of_isCut hpanics]

theorem callsIn_operate_of_returns (h : k.lock ≠ .held) {i : Interference σ} {op : Operation σ}
    (hreturns : (k.operate i op).panicked = false) :
    callsIn (k.operate i op).trace = callsDue k.policy k.state op := by
  rw [panicked_operate h] at hreturns
  rw [callsIn_operate h, carriedOut_of_not_isCut hreturns, callsOf_script]

/-- A panic keeps some calls back; none is made that is not due. -/
theorem callsIn_operate_isPrefix (h : k.lock ≠ .held) (i : Interference σ) (op : Operation σ) :
    callsIn (k.operate i op).trace <+: callsDue k.policy k.state op := by
  rw [callsIn_operate h, ← callsOf_script]
  exact (carriedOut_isPrefix i _).filterMap Action.call?

theorem panicked_operate_of_isCalm (h : k.lock ≠ .held) {i : Interference σ} (hi : i.IsCalm)
    (op : Operation σ) : (k.operate i op).panicked = false := by
  rw [panicked_operate h]
  exact isCut_of_isCalm hi _

end Operations

/-! ## Moves -/

/-- What may happen to a coordinator from outside. -/
inductive Move (σ : Type) where
  | operate (op : Operation σ) (i : Interference σ)
  /-- Someone looks at the state. -/
  | inspect
  /-- The observer takes events. -/
  | drain (count : Option Nat)
  /-- The observer goes away. -/
  | closeEvents

namespace Move

def outcome (k : Coordinator σ) : Move σ → Outcome σ
  | .operate op i => k.operate i op
  | .inspect => k.inspect.2
  | .drain count => ⟨(k.drain count).2, [], false⟩
  | .closeEvents => ⟨k.closeEvents, [], false⟩

def IsCalm : Move σ → Prop
  | .operate _ i => i.IsCalm
  | _ => True

def contending : Move σ → Call σ → List Change
  | .operate _ i => i.contending
  | _ => fun _ => []

/-- The state after a calm move. -/
def next (policy : Policy) (state : State σ) : Move σ → State σ
  | .operate op _ => state.next policy op
  | _ => state

/-- The calls of a calm move. -/
def callsDue (policy : Policy) (state : State σ) : Move σ → List (Call σ)
  | .operate op _ => Coordinator.callsDue policy state op
  | _ => []

variable {k : Coordinator σ}

theorem lock_outcome_ne_held (h : k.lock ≠ .held) (move : Move σ) :
    (move.outcome k).coordinator.lock ≠ .held := by
  cases move with
  | operate op i => exact lock_operate_ne_held h i op
  | inspect =>
    cases hlock : k.lock with
    | poisoned => simp [outcome, Coordinator.inspect, hlock]
    | free => simp [outcome, Coordinator.inspect, hlock]
    | held => exact absurd hlock h
  | drain count => exact h
  | closeEvents => exact h

theorem policy_outcome (k : Coordinator σ) (move : Move σ) :
    (move.outcome k).coordinator.policy = k.policy := by
  cases move with
  | operate op i => exact policy_operate i op
  | inspect => cases hlock : k.lock <;> simp [outcome, Coordinator.inspect, hlock]
  | drain count => rfl
  | closeEvents => rfl

theorem state_outcome_inspect (k : Coordinator σ) :
    ((Move.inspect : Move σ).outcome k).coordinator.state = k.state := by
  cases hlock : k.lock <;> simp [outcome, Coordinator.inspect, hlock]

theorem trace_outcome_inspect (k : Coordinator σ) :
    ((Move.inspect : Move σ).outcome k).trace = k.recovery := by
  cases hlock : k.lock <;> simp [outcome, Coordinator.inspect, hlock, recovery]

theorem state_outcome_of_isCalm (h : k.lock ≠ .held) {move : Move σ} (hcalm : move.IsCalm) :
    (move.outcome k).coordinator.state = move.next k.policy k.state := by
  cases move with
  | operate op i => exact state_operate_of_returns h (panicked_operate_of_isCalm h hcalm op)
  | inspect => exact state_outcome_inspect k
  | drain count => rfl
  | closeEvents => rfl

theorem callsIn_outcome_of_isCalm (h : k.lock ≠ .held) {move : Move σ} (hcalm : move.IsCalm) :
    callsIn (move.outcome k).trace = move.callsDue k.policy k.state := by
  cases move with
  | operate op i => exact callsIn_operate_of_returns h (panicked_operate_of_isCalm h hcalm op)
  | inspect =>
    rw [trace_outcome_inspect]
    exact callsIn_recovery k
  | drain count => rfl
  | closeEvents => rfl

theorem droppedIn_outcome (h : k.lock ≠ .held) (move : Move σ) :
    droppedIn (move.outcome k).trace =
      (callsIn (move.outcome k).trace).flatMap fun call =>
        (move.contending call).map Change.identity := by
  cases move with
  | operate op i => exact droppedIn_operate h i op
  | inspect => simp [trace_outcome_inspect]
  | drain count => rfl
  | closeEvents => rfl

end Move

/-! ## Lists of moves -/

def after (moves : List (Move σ)) (k : Coordinator σ) : Coordinator σ :=
  moves.foldl (fun k move => (move.outcome k).coordinator) k

/-- What comes of each move. -/
def outcomes : List (Move σ) → Coordinator σ → List (Outcome σ)
  | [], _ => []
  | move :: rest, k => move.outcome k :: outcomes rest (move.outcome k).coordinator

/-- What happens in all of them. -/
def history (moves : List (Move σ)) (k : Coordinator σ) : List (Happening σ) :=
  (outcomes moves k).flatMap Outcome.trace

@[simp] theorem after_cons (move : Move σ) (rest : List (Move σ)) (k : Coordinator σ) :
    after (move :: rest) k = after rest (move.outcome k).coordinator := rfl

theorem after_append (front back : List (Move σ)) (k : Coordinator σ) :
    after (front ++ back) k = after back (after front k) := List.foldl_append

@[simp] theorem history_nil (k : Coordinator σ) : history [] k = [] := rfl

@[simp] theorem history_cons (move : Move σ) (rest : List (Move σ)) (k : Coordinator σ) :
    history (move :: rest) k =
      (move.outcome k).trace ++ history rest (move.outcome k).coordinator := rfl

theorem outcomes_append (front back : List (Move σ)) (k : Coordinator σ) :
    outcomes (front ++ back) k = outcomes front k ++ outcomes back (after front k) := by
  induction front generalizing k with
  | nil => rfl
  | cons move rest ih => exact congrArg (move.outcome k :: ·) (ih _)

theorem history_append (front back : List (Move σ)) (k : Coordinator σ) :
    history (front ++ back) k = history front k ++ history back (after front k) := by
  unfold history
  rw [outcomes_append, List.flatMap_append]

theorem lock_after_ne_held {k : Coordinator σ} (h : k.lock ≠ .held) (moves : List (Move σ)) :
    (after moves k).lock ≠ .held := by
  induction moves generalizing k with
  | nil => exact h
  | cons move rest ih => exact ih (move.lock_outcome_ne_held h)

theorem policy_after (moves : List (Move σ)) (k : Coordinator σ) :
    (after moves k).policy = k.policy := by
  induction moves generalizing k with
  | nil => rfl
  | cons move rest ih => exact (ih _).trans (move.policy_outcome k)

/-! ## Calm runs -/

def stateAfter (policy : Policy) (state : State σ) (moves : List (Move σ)) : State σ :=
  moves.foldl (fun state move => move.next policy state) state

def callsThrough (policy : Policy) : State σ → List (Move σ) → List (Call σ)
  | _, [] => []
  | state, move :: rest =>
    move.callsDue policy state ++ callsThrough policy (move.next policy state) rest

@[simp] theorem stateAfter_cons (policy : Policy) (state : State σ) (move : Move σ)
    (rest : List (Move σ)) :
    stateAfter policy state (move :: rest) = stateAfter policy (move.next policy state) rest := rfl

theorem stateAfter_append (policy : Policy) (state : State σ) (front back : List (Move σ)) :
    stateAfter policy state (front ++ back) =
      stateAfter policy (stateAfter policy state front) back := List.foldl_append

theorem callsThrough_append (policy : Policy) (state : State σ) (front back : List (Move σ)) :
    callsThrough policy state (front ++ back) =
      callsThrough policy state front ++
        callsThrough policy (stateAfter policy state front) back := by
  induction front generalizing state with
  | nil => rfl
  | cons move front ih =>
    rw [List.cons_append, callsThrough, ih, callsThrough, List.append_assoc, stateAfter_cons]

theorem state_after_of_isCalm {k : Coordinator σ} {moves : List (Move σ)} (h : k.lock ≠ .held)
    (hcalm : ∀ move ∈ moves, move.IsCalm) :
    (after moves k).state = stateAfter k.policy k.state moves := by
  induction moves generalizing k with
  | nil => rfl
  | cons move rest ih =>
    have hrest := ih (move.lock_outcome_ne_held h) fun m hm => hcalm m (List.mem_cons_of_mem _ hm)
    rw [after_cons, hrest, move.policy_outcome,
      Move.state_outcome_of_isCalm h (hcalm move List.mem_cons_self), stateAfter_cons]

theorem callsIn_history_of_isCalm {k : Coordinator σ} {moves : List (Move σ)}
    (h : k.lock ≠ .held) (hcalm : ∀ move ∈ moves, move.IsCalm) :
    callsIn (history moves k) = callsThrough k.policy k.state moves := by
  induction moves generalizing k with
  | nil => rfl
  | cons move rest ih =>
    have hmove := hcalm move List.mem_cons_self
    have hrest := ih (move.lock_outcome_ne_held h) fun m hm => hcalm m (List.mem_cons_of_mem _ hm)
    rw [history_cons, callsIn_append, hrest, move.policy_outcome,
      Move.state_outcome_of_isCalm h hmove, Move.callsIn_outcome_of_isCalm h hmove, callsThrough]

/-! ## Runs from the start -/

/-- There is a coordinator for every capacity that a channel can have. -/
theorem new_of_capacity (policy : Policy) {capacity : Nat} (hleast : 1 ≤ capacity)
    (hmost : capacity ≤ largestCapacity) :
    Coordinator.new ⟨policy, capacity⟩ =
      .ok (⟨policy, .new capacity, .initial, .free⟩ : Coordinator σ) := by
  have hvalid : (⟨policy, capacity⟩ : Settings).validate = .ok () :=
    if_neg (Nat.one_le_iff_ne_zero.mp hleast)
  rw [Coordinator.new, hvalid]
  exact if_neg (Nat.not_lt.mpr hmost)

section Start

variable {settings : Settings} {start : Coordinator σ}

theorem new_eq (h : Coordinator.new settings = .ok start) :
    start = ⟨settings.policy, .new settings.eventCapacity, .initial, .free⟩ := by
  unfold Coordinator.new at h
  split at h
  · cases h
  · split at h
    · cases h
    · exact (Except.ok.inj h).symm

theorem lock_after_new (h : Coordinator.new settings = .ok start) (moves : List (Move σ)) :
    (after moves start).lock ≠ .held := by
  apply lock_after_ne_held
  simp [new_eq h]

theorem policy_after_new (h : Coordinator.new settings = .ok start) (moves : List (Move σ)) :
    (after moves start).policy = settings.policy := by
  rw [policy_after, new_eq h]

end Start

end PathKeeper.Coordinator
