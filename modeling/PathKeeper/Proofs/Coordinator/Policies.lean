import PathKeeper.Proofs.Coordinator.Erasure
import PathKeeper.Proofs.Coordinator.Recovery

/-!
# The two policies

A change with a malformed entry is discarded as a whole by one policy, before anything is done about
it. So a run under that policy is a run under the other one without such changes. As long as every
entry has an address, the policies cannot be told apart.
-/

namespace PathKeeper

set_option autoImplicit false

namespace Change

/-- Whether some entry has no address. -/
def isMalformed (change : Change) : Bool :=
  change.resolvers.any fun raw => (Resolver.address? raw).isNone

variable {change : Change}

theorem all_isSome_of_not_isMalformed (h : change.isMalformed = false) :
    change.resolvers.all (fun raw => (Resolver.address? raw).isSome) = true := by
  simpa [isMalformed, Option.isSome_iff_ne_none] using h

theorem snapshot?_of_not_isMalformed (h : change.isMalformed = false) (policy : Policy) :
    change.snapshot? policy =
      some ⟨change.identity, change.resolvers.filterMap Resolver.address?⟩ := by
  apply if_pos
  rw [Policy.admits, all_isSome_of_not_isMalformed h, Bool.or_true]

theorem snapshot?_reject_of_isMalformed (h : change.isMalformed = true) :
    change.snapshot? .reject = none := by
  apply if_neg
  simpa [Policy.admits, isMalformed, Option.isSome_iff_ne_none] using h

end Change

namespace Coordinator

variable {σ : Type}

def Operation.isMalformed : Operation σ → Bool
  | .change c => c.isMalformed
  | _ => false

def Move.isMalformed : Move σ → Bool
  | .operate op _ => op.isMalformed
  | _ => false

/-- A run without the changes that have a malformed entry. -/
def wellFormed (moves : List (Move σ)) : List (Move σ) := moves.filter fun move => !move.isMalformed

/-! ## Operations under the two policies -/

theorem skipNotes_of_not_isMalformed {change : Change} (h : change.isMalformed = false)
    (policy : Policy) : (skipNotes policy change : List (Action σ)) = [] := by
  cases policy with
  | skip =>
    rw [skipNotes, Resolver.skipped_of_all (Change.all_isSome_of_not_isMalformed h), List.map_nil]
  | reject => rfl

/-- The policy makes no difference to an operation without a malformed entry. -/
theorem script_of_not_isMalformed {op : Operation σ} (h : op.isMalformed = false)
    (policy policy' : Policy) (state : State σ) :
    script policy state op = script policy' state op := by
  cases op with
  | change change =>
    have hchange : change.isMalformed = false := h
    have hsnapshot := Change.snapshot?_of_not_isMalformed hchange
    cases hs : state.session with
    | none => simp only [script, onChange, hs]
    | some session =>
      rw [script_change_of_snapshot hs (hsnapshot policy),
        script_change_of_snapshot hs (hsnapshot policy'), skipNotes_of_not_isMalformed hchange,
        skipNotes_of_not_isMalformed hchange]
  | attach session => rfl
  | detach => rfl
  | loseTransport => rfl
  | fail reason => rfl

/-- Under the policy that rejects, a malformed change comes to nothing. -/
theorem next_reject_of_isMalformed {op : Operation σ} (h : op.isMalformed = true)
    (state : State σ) :
    state.next .reject op = state ∧ callsDue .reject state op = [] := by
  cases op with
  | change change =>
    have hsnapshot : change.snapshot? .reject = none := Change.snapshot?_reject_of_isMalformed h
    cases hs : state.session <;> simp [State.next, callsDue, hs, hsnapshot]
  | attach session => cases h
  | detach => cases h
  | loseTransport => cases h
  | fail reason => cases h

theorem rejected_of_mem_eventsDue {policy : Policy} {state : State σ} {op : Operation σ}
    {identity : Identity} {reason : String}
    (h : .updateRejected identity reason ∈ eventsDue policy state op) :
    ∃ change fault, op = .change change ∧ identity = change.identity ∧
      Resolver.normalize policy change.resolvers = .error fault ∧
      reason = fault.failure.message := by
  have hsetback : (eventsDue policy state op).any Event.isSetback = true :=
    List.any_eq_true.mpr ⟨_, h, rfl⟩
  by_cases hop : ∀ change, op ≠ .change change
  · rw [Operation.any_isSetback_eventsDue hop] at hsetback
    cases hsetback
  · obtain ⟨change, rfl⟩ : ∃ change, op = .change change := by simpa using hop
    cases hs : state.session with
    | none => simp [eventsDue, hs] at h
    | some session =>
      cases hok : Resolver.normalize policy change.resolvers with
      | ok servers =>
        have hno : (eventsDue policy state (.change change)).any Event.isSetback = false := by
          simp [eventsDue, hs, hok, any_isSetback_statusEvents, any_isSetback_correctionEvents,
            Event.isSetback]
        rw [hno] at hsetback
        cases hsetback
      | error fault =>
        obtain ⟨hidentity, hreason⟩ : identity = change.identity ∧
            reason = fault.failure.message := by simpa [eventsDue, hs, hok] using h
        exact ⟨change, fault, rfl, hidentity, hok, hreason⟩

/-! ## Moves under the two policies -/

section Moves

variable {k k' : Coordinator σ} {move : Move σ}

theorem Move.outcome_of_not_isMalformed (h : k.lock ≠ .held) (h' : k'.lock ≠ .held)
    (hstate : k'.state = k.state) (hmove : move.isMalformed = false) :
    callsIn (move.outcome k').trace = callsIn (move.outcome k).trace ∧
      (move.outcome k').coordinator.state = (move.outcome k).coordinator.state := by
  cases move with
  | operate op i =>
    have hscript := script_of_not_isMalformed hmove k'.policy k.policy k.state
    constructor
    · rw [outcome, outcome, callsIn_operate h, callsIn_operate h', hstate, hscript]
    · rw [outcome, outcome, state_operate h, state_operate h', hstate, hscript]
  | inspect =>
    rw [trace_outcome_inspect, trace_outcome_inspect, callsIn_recovery, callsIn_recovery,
      state_outcome_inspect, state_outcome_inspect]
    exact ⟨rfl, hstate⟩
  | drain count => exact ⟨rfl, hstate⟩
  | closeEvents => exact ⟨rfl, hstate⟩

theorem Move.outcome_reject_of_isMalformed (h : k.lock ≠ .held) (hpolicy : k.policy = .reject)
    (hmove : move.isMalformed = true) :
    callsIn (move.outcome k).trace = [] ∧ (move.outcome k).coordinator.state = k.state := by
  cases move with
  | operate op i =>
    obtain ⟨hnext, hcalls⟩ := next_reject_of_isMalformed hmove k.state
    rw [← hpolicy] at hnext hcalls
    have hreturns : (k.operate i op).panicked = false := by
      -- only a call can panic
      rw [Bool.eq_false_iff]
      intro hpanics
      exact callsDue_ne_nil_of_panics h hpanics hcalls
    constructor
    · exact (callsIn_operate_of_returns h hreturns).trans hcalls
    · exact (state_operate_of_returns h hreturns).trans hnext
  | inspect => cases hmove
  | drain count => cases hmove
  | closeEvents => cases hmove

end Moves

/-! ## Another policy -/

def withPolicy (policy : Policy) (k : Coordinator σ) : Coordinator σ := { k with policy := policy }

def Outcome.withPolicy (policy : Policy) (outcome : Outcome σ) : Outcome σ :=
  { outcome with coordinator := outcome.coordinator.withPolicy policy }

theorem refuseAll_withPolicy (policy : Policy) (changes : List Change) (k : Coordinator σ) :
    (k.withPolicy policy).refuseAll changes = (k.refuseAll changes).withPolicy policy := by
  induction changes generalizing k with
  | nil => rfl
  | cons change changes ih =>
    have hrest := ih (k.refuse change).coordinator
    exact congrArg (Outcome.after (k.refuse change).trace) hrest

/-- Once a script is decided on, the policy has no part in it. -/
theorem perform_withPolicy (policy : Policy) (i : Interference σ) (actions : List (Action σ))
    (k : Coordinator σ) :
    perform i actions (k.withPolicy policy) = (perform i actions k).withPolicy policy := by
  induction actions generalizing k with
  | nil => rfl
  | cons action rest ih =>
    cases action with
    | note note => exact congrArg (Outcome.after [.noted note]) (ih k)
    | write state => exact ih { k with state := state }
    | emit event => exact congrArg (Outcome.after (k.emission event)) (ih (k.emit event))
    | call call =>
      cases hp : i.panics call with
      | true =>
        rw [perform_call_of_panics hp, perform_call_of_panics hp, refuseAll_withPolicy]
        rfl
      | false =>
        have hrest := ih (k.refuseAll (i.contending call)).coordinator
        rw [perform_call_of_returns hp, perform_call_of_returns hp, refuseAll_withPolicy]
        exact congrArg (Outcome.after _) hrest

section Moves

variable {k : Coordinator σ} {move : Move σ}

theorem Move.outcome_withPolicy (h : k.lock ≠ .held) (hmove : move.isMalformed = false)
    (policy : Policy) :
    move.outcome (k.withPolicy policy) = (move.outcome k).withPolicy policy := by
  have h' : (k.withPolicy policy).lock ≠ .held := h
  cases move with
  | operate op i =>
    have hinside : perform i
        (script (k.withPolicy policy).policy (k.withPolicy policy).state op)
        { k.withPolicy policy with lock := .held } =
          (perform i (script k.policy k.state op) { k with lock := .held }).withPolicy policy := by
      rw [script_of_not_isMalformed hmove _ k.policy]
      exact perform_withPolicy policy i _ { k with lock := .held }
    rw [outcome, outcome, operate_of_not_held h, operate_of_not_held h', exclusively, hinside]
    rfl
  | inspect =>
    rw [outcome, outcome, inspect_of_not_held h, inspect_of_not_held h']
    rfl
  | drain count => rfl
  | closeEvents => rfl

end Moves

/-! ## Runs -/

theorem outcomes_withPolicy {k : Coordinator σ} {moves : List (Move σ)} (h : k.lock ≠ .held)
    (hmoves : ∀ move ∈ moves, move.isMalformed = false) (policy : Policy) :
    outcomes moves (k.withPolicy policy) = (outcomes moves k).map (Outcome.withPolicy policy) := by
  induction moves generalizing k with
  | nil => rfl
  | cons move rest ih =>
    obtain ⟨hmove, hrest⟩ := List.forall_mem_cons.mp hmoves
    rw [outcomes, outcomes, Move.outcome_withPolicy h hmove, List.map_cons]
    exact congrArg _ (ih (move.lock_outcome_ne_held h) hrest)

theorem run_wellFormed {moves : List (Move σ)} {k k' : Coordinator σ} (h : k.lock ≠ .held)
    (h' : k'.lock ≠ .held) (hpolicy : k.policy = .reject) (hstate : k'.state = k.state) :
    callsIn (history (wellFormed moves) k') = callsIn (history moves k) ∧
      (after (wellFormed moves) k').state = (after moves k).state := by
  induction moves generalizing k k' with
  | nil => exact ⟨rfl, hstate⟩
  | cons move rest ih =>
    have hlock := move.lock_outcome_ne_held h
    have hkeeps := (move.policy_outcome k).trans hpolicy
    cases hmove : move.isMalformed with
    | true =>
      -- the other run waits while this one discards the change
      obtain ⟨hcalls, hsame⟩ := Move.outcome_reject_of_isMalformed h hpolicy hmove
      have hdeleted : wellFormed (move :: rest) = wellFormed rest :=
        List.filter_cons_of_neg (by simp [hmove])
      rw [hdeleted, history_cons, callsIn_append, hcalls, List.nil_append, after_cons]
      exact ih hlock h' hkeeps (hstate.trans hsame.symm)
    | false =>
      obtain ⟨hcalls, hnext⟩ := Move.outcome_of_not_isMalformed h h' hstate hmove
      have hkept : wellFormed (move :: rest) = move :: wellFormed rest :=
        List.filter_cons_of_pos (by simp [hmove])
      obtain ⟨hlater, hlast⟩ := ih hlock (move.lock_outcome_ne_held h') hkeeps hnext
      rw [hkept, history_cons, history_cons, callsIn_append, callsIn_append, hcalls, hlater]
      exact ⟨rfl, hlast⟩

theorem first_fault_of_rejected {k : Coordinator σ} (h : k.lock ≠ .held)
    (hpolicy : k.policy = .reject) {move : Move σ} {identity : Identity} {reason : String}
    (hmem : .updateRejected identity reason ∈ eventsIn (move.outcome k).trace) :
    ∃ change i front raw back fault, move = .operate (.change change) i ∧
      identity = change.identity ∧ change.resolvers = front ++ raw :: back ∧
      (∀ entry ∈ front, ∃ address, Resolver.parse entry = .ok address) ∧
      Resolver.parse raw = .error fault ∧ reason = fault.failure.message := by
  cases move with
  | operate op i =>
    rw [Move.outcome, eventsIn_operate h] at hmem
    have hdue := mem_eventsOf_carriedOut hmem
    rw [eventsOf_script] at hdue
    obtain ⟨change, fault, rfl, hidentity, hfault, hreason⟩ := rejected_of_mem_eventsDue hdue
    rw [hpolicy] at hfault
    obtain ⟨front, raw, back, hsplit, hfront, hraw⟩ :=
      Resolver.first_fault_of_normalize_reject hfault
    exact ⟨change, i, front, raw, back, fault, rfl, hidentity, hsplit, hfront, hraw, hreason⟩
  | inspect =>
    rw [Move.trace_outcome_inspect, eventsIn_recovery] at hmem
    cases hmem
  | drain count => cases hmem
  | closeEvents => cases hmem

/-- Under the policy that rejects, a run makes the same calls and leaves the same state as the run
under the policy that skips of all moves but the malformed changes. As this holds of every run, it
holds after each of its moves, and whatever comes during calls. Without malformed changes the
outcomes are the same in everything but the policy. A change that is rejected is told of with the
fault of its first entry that has no address. -/
theorem rejecting_is_skipping_without_malformed_changes {capacity : Nat}
    {rejecting skipping : Coordinator σ}
    (hreject : Coordinator.new ⟨.reject, capacity⟩ = .ok rejecting)
    (hskip : Coordinator.new ⟨.skip, capacity⟩ = .ok skipping) (moves : List (Move σ)) :
    (callsIn (history (wellFormed moves) skipping) = callsIn (history moves rejecting) ∧
        (after (wellFormed moves) skipping).inspect.1 = (after moves rejecting).inspect.1) ∧
      ((∀ move ∈ moves, move.isMalformed = false) →
        outcomes moves skipping = (outcomes moves rejecting).map (Outcome.withPolicy .skip)) ∧
      ∀ (move : Move σ) identity reason,
        .updateRejected identity reason ∈ eventsIn (move.outcome (after moves rejecting)).trace →
          ∃ change i front raw back fault, move = .operate (.change change) i ∧
            identity = change.identity ∧ change.resolvers = front ++ raw :: back ∧
            (∀ entry ∈ front, ∃ address, Resolver.parse entry = .ok address) ∧
            Resolver.parse raw = .error fault ∧ reason = fault.failure.message := by
  have hlock : rejecting.lock ≠ .held := lock_after_new hreject []
  have hsame : skipping = rejecting.withPolicy .skip := by
    rw [new_eq hreject, new_eq hskip]
    rfl
  have hstate : skipping.state = rejecting.state := by
    rw [hsame]
    rfl
  refine ⟨?_, ?_, ?_⟩
  · rw [inspect_fst, inspect_fst]
    exact run_wellFormed hlock (lock_after_new hskip []) (policy_after_new hreject []) hstate
  · intro hmoves
    rw [hsame]
    exact outcomes_withPolicy hlock hmoves .skip
  · intro move identity reason hmem
    exact first_fault_of_rejected (lock_after_new hreject moves) (policy_after_new hreject moves)
      hmem

/-- A list with its last entry malformed, which would be a new network for the policy that skips,
and one with a fault in front of another; a lost transport in between, and a panic. -/
theorem malformed_changes_can_be_left_out :
    let rejecting : Coordinator String := ⟨.reject, .new 4, .initial, .free⟩
    let skipping : Coordinator String := ⟨.skip, .new 4, .initial, .free⟩
    let wifi : Change := ⟨⟨"wifi"⟩, ["1.1.1.1"]⟩
    let lan : Change := ⟨⟨"lan"⟩, ["::1", "%eth0", "1.1"]⟩
    let crowd : Interference String := ⟨fun _ => [lan], (· = .command "s" .reconnect)⟩
    let front : List (Move String) :=
      [.operate (.attach "s") crowd, .operate (.change ⟨⟨"cell"⟩, ["8.8.8.8", "[::1"]⟩) crowd,
        .operate .loseTransport .none, .operate (.change wifi) crowd]
    let moves := front ++ [.operate (.change lan) .none, .operate (.change wifi) .none]
    Coordinator.new ⟨.reject, 4⟩ = .ok rejecting ∧ Coordinator.new ⟨.skip, 4⟩ = .ok skipping ∧
      (wellFormed moves).length = 4 ∧
      callsIn (history moves rejecting) =
        [.command "s" (.setStatus .connecting), .command "s" (.setStatus .up), .notify .connected,
          .command "s" (.setServers [.v4 ⟨1, 1, 1, 1⟩]), .command "s" .reconnect,
          .command "s" (.setServers [.v4 ⟨1, 1, 1, 1⟩]), .command "s" .reconnect] ∧
      let reason := (Resolver.Fault.noHost "%eth0").failure.message
      .updateRejected ⟨"lan"⟩ reason ∈ eventsIn
          ((Move.operate (.change lan) .none).outcome (after front rejecting)).trace ∧
        ∃ good raw rest fault, lan.resolvers = good ++ raw :: rest ∧
          (∀ entry ∈ good, ∃ address, Resolver.parse entry = .ok address) ∧
          Resolver.parse raw = .error fault ∧ reason = fault.failure.message := by
  intro rejecting skipping wifi lan crowd front moves
  have hreject : Coordinator.new ⟨.reject, 4⟩ = .ok rejecting := rfl
  have hskip : Coordinator.new ⟨.skip, 4⟩ = .ok skipping := rfl
  obtain ⟨⟨hcalls, -⟩, -, -⟩ := rejecting_is_skipping_without_malformed_changes hreject hskip moves
  obtain ⟨-, -, hreasons⟩ := rejecting_is_skipping_without_malformed_changes hreject hskip front
  have hevents : eventsIn
      ((Move.operate (.change lan) .none).outcome (after front rejecting)).trace =
        [.updateRejected ⟨"lan"⟩ (Resolver.Fault.noHost "%eth0").failure.message] := by
    decide +kernel
  refine ⟨hreject, hskip, ?_, ?_, ?_⟩
  · decide +kernel
  · rw [← hcalls]
    decide +kernel
  · intro reason
    have hmem : .updateRejected ⟨"lan"⟩ reason ∈ eventsIn
        ((Move.operate (.change lan) .none).outcome (after front rejecting)).trace := by
      rw [hevents]
      exact List.mem_singleton_self _
    obtain ⟨change, i, good, raw, rest, fault, hmove, -, hfault⟩ := hreasons _ _ _ hmem
    cases hmove
    exact ⟨hmem, good, raw, rest, fault, hfault⟩

end Coordinator

end PathKeeper
