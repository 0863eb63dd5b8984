import PathKeeper.Proofs.Coordinator.Corrections

/-!
# Attachments

From the attachment of a session to the next attachment or detachment the session is corrected as
little as possible: it is told resolvers when they differ from those of the snapshot before, and
reconnects when the identity differs. The snapshots that count are those of the changes that came
alone and were not discarded.
-/

namespace PathKeeper.Coordinator

set_option autoImplicit false

variable {σ : Type}

/-! ## Moves that keep the session -/

section Keeping

variable {policy : Policy} {state : State σ} {s : σ} {moves : List (Move σ)}

theorem session_stateAfter (hs : state.session = some s)
    (hkeeps : ∀ move ∈ moves, move.keepsSession = true) :
    (stateAfter policy state moves).session = some s := by
  induction moves generalizing state with
  | nil => exact hs
  | cons move rest ih =>
    exact ih (Move.session_next hs (hkeeps move List.mem_cons_self))
      fun m hm => hkeeps m (List.mem_cons_of_mem move hm)

theorem last_stateAfter (hs : state.session = some s)
    (hkeeps : ∀ move ∈ moves, move.keepsSession = true) :
    (stateAfter policy state moves).last =
      (moves.filterMap (Move.snapshot? policy)).getLast?.or state.last := by
  induction moves generalizing state with
  | nil => rfl
  | cons move rest ih =>
    have hkeep := hkeeps move List.mem_cons_self
    have hnext : (move.next policy state).session = some s := Move.session_next hs hkeep
    have hrest := ih hnext fun m hm => hkeeps m (List.mem_cons_of_mem move hm)
    rw [stateAfter_cons, hrest, Move.last_next hs hkeep]
    cases hsnapshot : move.snapshot? policy with
    | none => rw [List.filterMap_cons_none hsnapshot, Option.none_or]
    | some snapshot =>
      rw [List.filterMap_cons_some hsnapshot, List.getLast?_cons]
      cases (rest.filterMap (Move.snapshot? policy)).getLast? <;> rfl

variable [DecidableEq σ]

/-- What a session is corrected by is the trail of the snapshots that were brought. -/
theorem correction?_callsThrough (hs : state.session = some s)
    (hkeeps : ∀ move ∈ moves, move.keepsSession = true) :
    (callsThrough policy state moves).filterMap (Call.correction? s) =
      trail state.last (moves.filterMap (Move.snapshot? policy)) := by
  induction moves generalizing state with
  | nil => rfl
  | cons move rest ih =>
    have hkeep := hkeeps move List.mem_cons_self
    have hnext : (move.next policy state).session = some s := Move.session_next hs hkeep
    have hrest := ih hnext fun m hm => hkeeps m (List.mem_cons_of_mem move hm)
    rw [callsThrough, List.filterMap_append, hrest, Move.last_next hs hkeep]
    cases hsnapshot : move.snapshot? policy with
    | none =>
      rw [List.filterMap_cons_none hsnapshot, Move.correction?_callsDue_of_none hsnapshot,
        Option.none_or, List.nil_append]
    | some snapshot =>
      rw [List.filterMap_cons_some hsnapshot, Move.correction?_callsDue_of_some hs hsnapshot]
      rfl

end Keeping

/-! ## Attachments -/

section Attachment

variable {k : Coordinator σ} {s : σ} {i : Interference σ} {epoch : List (Move σ)}

theorem state_after_attachment (h : k.lock ≠ .held)
    (hcalm : ∀ move ∈ .operate (.attach s) i :: epoch, move.IsCalm) :
    (after (.operate (.attach s) i :: epoch) k).state =
      stateAfter k.policy ⟨.connecting, some s, none⟩ epoch :=
  state_after_of_isCalm h hcalm

theorem last_after_attachment (h : k.lock ≠ .held)
    (hcalm : ∀ move ∈ .operate (.attach s) i :: epoch, move.IsCalm)
    (hkeeps : ∀ move ∈ epoch, move.keepsSession = true) :
    (after (.operate (.attach s) i :: epoch) k).state.last =
      (epoch.filterMap (Move.snapshot? k.policy)).getLast? := by
  rw [state_after_attachment h hcalm, last_stateAfter rfl hkeeps, Option.or_none]

theorem correctionsTo_attachment [DecidableEq σ] (h : k.lock ≠ .held)
    (hcalm : ∀ move ∈ .operate (.attach s) i :: epoch, move.IsCalm)
    (hkeeps : ∀ move ∈ epoch, move.keepsSession = true) :
    correctionsTo s (history (.operate (.attach s) i :: epoch) k) =
      trail none (epoch.filterMap (Move.snapshot? k.policy)) := by
  unfold correctionsTo
  rw [callsIn_history_of_isCalm h hcalm, callsThrough, List.filterMap_append,
    Move.correction?_callsDue_of_none rfl, List.nil_append]
  exact correction?_callsThrough rfl hkeeps

theorem correctionsTo_within_attachment [DecidableEq σ] (h : k.lock ≠ .held)
    (hcalm : ∀ move ∈ .operate (.attach s) i :: epoch, move.IsCalm)
    (hkeeps : ∀ move ∈ epoch, move.keepsSession = true) {move : Move σ} (hmove : move.IsCalm) :
    correctionsTo s (move.outcome (after (.operate (.attach s) i :: epoch) k)).trace =
      ((move.snapshot? k.policy).map
        (corrections (epoch.filterMap (Move.snapshot? k.policy)).getLast?)).getD [] := by
  have hsession : (after (.operate (.attach s) i :: epoch) k).state.session = some s := by
    rw [state_after_attachment h hcalm]
    exact session_stateAfter rfl hkeeps
  rw [Move.correctionsTo_outcome (lock_after_ne_held h _) hmove hsession, policy_after,
    last_after_attachment h hcalm hkeeps]

end Attachment

/-- A place in a list that is not empty, with what comes before and behind. -/
theorem exists_front {α : Type} {first move : α} {rest front back : List α}
    (h : first :: rest = front ++ move :: back) :
    ∃ middle, front ++ [move] = first :: middle ∧ rest = middle ++ back := by
  cases front with
  | nil =>
    obtain ⟨rfl, rfl⟩ := List.cons.inj h
    exact ⟨[], rfl, rfl⟩
  | cons _ front =>
    obtain ⟨rfl, rfl⟩ := List.cons.inj h
    exact ⟨front ++ [move], rfl, by simp⟩

/-- From an attachment up to the next attachment or detachment, a session is told resolvers once
for each that differ from those before and reconnects once for each identity that differs from the
one before. Both happen within the change that brings them, resolvers first, and no other move has
a part in it; a change is lost exactly if it comes during a call; and the last snapshot is always
the latest one brought. -/
theorem attachment_is_corrected_minimally [DecidableEq σ] {settings : Settings}
    {start : Coordinator σ} (hstart : Coordinator.new settings = .ok start)
    (earlier : List (Move σ)) {s : σ} {i : Interference σ} {epoch : List (Move σ)}
    (hcalm : ∀ move ∈ .operate (.attach s) i :: epoch, move.IsCalm)
    (hkeeps : ∀ move ∈ epoch, move.keepsSession = true) :
    let before := after earlier start
    let moves := .operate (.attach s) i :: epoch
    let brought := fun moves : List (Move σ) =>
      moves.filterMap (Move.snapshot? settings.policy)
    serversTold s (history moves before) =
        ((brought moves).map Snapshot.servers).destutter (· ≠ ·) ∧
      reconnects s (history moves before) =
        (((brought moves).map Snapshot.identity).destutter (· ≠ ·)).length ∧
      ∀ front move back, moves = front ++ move :: back →
        let outcome := move.outcome (after front before)
        correctionsTo s outcome.trace =
            ((move.snapshot? settings.policy).map (corrections (brought front).getLast?)).getD [] ∧
          droppedIn outcome.trace =
            (callsIn outcome.trace).flatMap (fun call =>
              (move.contending call).map Change.identity) ∧
          outcome.coordinator.inspect.1.last = (brought (front ++ [move])).getLast? := by
  intro before moves brought
  have hlock : before.lock ≠ .held := lock_after_new hstart earlier
  have hpolicy : before.policy = settings.policy := policy_after_new hstart earlier
  have hall := correctionsTo_attachment hlock hcalm hkeeps
  rw [hpolicy] at hall
  refine ⟨?_, ?_, ?_⟩
  · rw [serversTold, hall, servers?_trail, news_none]
    rfl
  · rw [reconnects, hall, count_reconnect_trail, news_none]
    rfl
  · intro front move back hsplit outcome
    have hcalmFront : ∀ m ∈ front, m.IsCalm := fun m hm => hcalm m (by simp [moves, hsplit, hm])
    have hmove : move.IsCalm := hcalm move (by simp [moves, hsplit])
    obtain ⟨rest, hrest, hepoch⟩ := exists_front hsplit
    refine ⟨?_, move.droppedIn_outcome (lock_after_ne_held hlock front), ?_⟩
    · cases front with
      | nil =>
        obtain ⟨rfl, -⟩ := List.cons.inj hsplit
        change List.filterMap (Call.correction? s)
          (callsIn ((Move.operate (.attach s) i).outcome before).trace) = _
        rw [Move.callsIn_outcome_of_isCalm hlock hmove, Move.correction?_callsDue_of_none rfl]
        rfl
      | cons first front =>
        obtain ⟨rfl, rfl⟩ := List.cons.inj hsplit
        have hwithin := correctionsTo_within_attachment hlock hcalmFront
          (fun m hm => hkeeps m (List.mem_append_left _ hm)) hmove
        rw [hpolicy] at hwithin
        exact hwithin
    · have hcalmRest : ∀ m ∈ .operate (.attach s) i :: rest, m.IsCalm := by
        intro m hm
        rw [← hrest, List.mem_append, List.mem_singleton] at hm
        rcases hm with hm | rfl
        · exact hcalmFront m hm
        · exact hmove
      have hlast := last_after_attachment hlock hcalmRest
        fun m hm => hkeeps m (hepoch ▸ List.mem_append_left _ hm)
      rw [← hrest, after_append, hpolicy] at hlast
      rw [inspect_fst, hrest]
      exact hlast

/-- Two networks with the same resolvers, a failure and a repetition in between, another change at
every call, and a list that is discarded. -/
theorem roaming_is_corrected_minimally :
    let start : Coordinator String := ⟨.reject, .new 4, .initial, .free⟩
    let wifi : Change := ⟨⟨"wifi"⟩, ["1.1.1.1"]⟩
    let cell : Change := ⟨⟨"cell"⟩, [" 1.1.1.1"]⟩
    let crowd : Interference String := ⟨fun _ => [cell], fun _ => false⟩
    let moves : List (Move String) :=
      [.operate (.attach "s") crowd, .operate (.change wifi) crowd, .operate (.fail "gone") crowd,
        .operate (.change wifi) crowd, .inspect, .operate (.change cell) .none,
        .operate (.change ⟨⟨"wifi"⟩, ["%", "::1"]⟩) crowd]
    Coordinator.new ⟨.reject, 4⟩ = .ok start ∧ (∀ move ∈ moves, move.IsCalm) ∧
      (∀ move ∈ moves.tail, move.keepsSession = true) ∧
      serversTold "s" (history moves start) = [[.v4 ⟨1, 1, 1, 1⟩]] ∧
      reconnects "s" (history moves start) = 2 := by
  intro start wifi cell crowd moves
  have hstart : Coordinator.new ⟨.reject, 4⟩ = .ok start := rfl
  have hcalm : ∀ move ∈ moves, move.IsCalm := by
    simp [moves, Move.IsCalm, Interference.IsCalm, crowd, Interference.none]
  have hkeeps : ∀ move ∈ moves.tail, move.keepsSession = true := by
    simp [moves, Move.keepsSession, Operation.keepsSession]
  obtain ⟨hservers, hreconnects, -⟩ :=
    attachment_is_corrected_minimally hstart [] hcalm hkeeps
  exact ⟨hstart, hcalm, hkeeps, hservers.trans (by rfl), hreconnects.trans (by rfl)⟩

end PathKeeper.Coordinator
