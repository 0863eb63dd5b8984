import PathKeeper.Proofs.Coordinator.Attachment

/-!
# What a session hears of its status

A session hears of every change of the status, the change that its own attachment makes included.
If the status was connecting before, the attachment changes nothing, and the session hears nothing
until the status becomes another one.
-/

namespace PathKeeper.Coordinator

set_option autoImplicit false

variable {σ : Type}

section Mirror

variable [DecidableEq σ]

def Call.status? (s : σ) : Call σ → Option SessionStatus
  | .command session (.setStatus status) => if session = s then some status else none
  | _ => none

/-- The statuses that a session is told, in order. -/
def statusesTold (s : σ) (trace : List (Happening σ)) : List SessionStatus :=
  (callsIn trace).filterMap (Call.status? s)

theorem statusesTold_append (s : σ) (front back : List (Happening σ)) :
    statusesTold s (front ++ back) = statusesTold s front ++ statusesTold s back := by
  simp [statusesTold]

/-! ## Calls of an operation -/

theorem status?_reports (s : σ) (before after : SessionStatus) (event : Option StatusEvent) :
    (reports (some s) before after event).filterMap (Call.status? s) =
      if before = after then [] else [after] := by
  unfold reports
  split
  · rfl
  · cases event <;> simp [Call.status?]

theorem status?_corrections (s session : σ) (last : Option Snapshot) (next : Snapshot) :
    ((corrections last next).map (.command session)).filterMap (Call.status? s) = [] := by
  unfold corrections
  split <;> split <;> rfl

/-- The session that is attached after an operation is told the status if it is another one. -/
theorem status?_callsDue {policy : Policy} {state : State σ} {op : Operation σ} {s : σ}
    (hs : (state.next policy op).session = some s) :
    (callsDue policy state op).filterMap (Call.status? s) =
      if state.status = (state.next policy op).status then []
      else [(state.next policy op).status] := by
  cases op with
  | change change =>
    cases hsession : state.session with
    | none => simp [State.next, hsession] at hs
    | some session =>
      cases hc : change.snapshot? policy with
      | none => simp [callsDue, State.next, hsession, hc]
      | some snapshot =>
        obtain rfl : session = s := by simpa [State.next, hsession, hc] using hs
        simp only [callsDue, State.next, hsession, hc, List.filterMap_append, status?_reports,
          status?_corrections, List.append_nil]
  | attach session =>
    obtain rfl : session = s := Option.some.inj hs
    exact status?_reports session state.status .connecting none
  | detach => cases hs
  | loseTransport =>
    cases hsession : state.session with
    | none => simp [State.next, hsession] at hs
    | some session =>
      obtain rfl : session = s := by simpa [State.next, hsession] using hs
      simp [callsDue, State.next, hsession, status?_reports]
  | fail reason =>
    cases hsession : state.session with
    | none => simp [State.next, hsession] at hs
    | some session =>
      obtain rfl : session = s := by simpa [State.next, hsession] using hs
      simp [callsDue, State.next, hsession, status?_reports]

theorem Move.status?_callsDue {policy : Policy} {state : State σ} {move : Move σ} {s : σ}
    (hs : (move.next policy state).session = some s) :
    (move.callsDue policy state).filterMap (Call.status? s) =
      if state.status = (move.next policy state).status then []
      else [(move.next policy state).status] := by
  cases move with
  | operate op i => exact Coordinator.status?_callsDue hs
  | inspect => exact (if_pos rfl).symm
  | drain count => exact (if_pos rfl).symm
  | closeEvents => exact (if_pos rfl).symm

theorem statusesTold_outcome {k : Coordinator σ} {move : Move σ} {s : σ} (h : k.lock ≠ .held)
    (hcalm : move.IsCalm) (hs : (move.outcome k).coordinator.state.session = some s) :
    statusesTold s (move.outcome k).trace =
      if k.state.status = (move.outcome k).coordinator.state.status then []
      else [(move.outcome k).coordinator.state.status] := by
  rw [Move.state_outcome_of_isCalm h hcalm] at hs ⊢
  rw [statusesTold, Move.callsIn_outcome_of_isCalm h hcalm]
  exact Move.status?_callsDue hs

/-! ## Values that do not repeat the one before -/

omit [DecidableEq σ] in
theorem getLast?_destutter'_ne (first : SessionStatus) (rest : List SessionStatus) :
    (rest.destutter' (· ≠ ·) first).getLast? = (first :: rest).getLast? := by
  induction rest generalizing first with
  | nil => rfl
  | cons next rest ih =>
    by_cases h : first = next
    · rw [List.destutter'_cons_neg _ (not_not_intro h), ih first, h, List.getLast?_cons_cons]
    · rw [List.destutter'_cons_pos _ h, List.getLast?_cons_cons, ← ih next]
      exact List.getLast?_append_of_ne_nil [first] (List.destutter'_ne_nil rest _)

omit [DecidableEq σ] in
theorem destutter'_ne_eq_singleton_iff (first : SessionStatus) (rest : List SessionStatus) :
    rest.destutter' (· ≠ ·) first = [first] ↔ ∀ status ∈ rest, status = first := by
  induction rest with
  | nil => simp
  | cons next rest ih =>
    by_cases h : first = next
    · rw [List.destutter'_cons_neg _ (not_not_intro h), ih, List.forall_mem_cons]
      exact (and_iff_right h.symm).symm
    · rw [List.destutter'_cons_pos _ h]
      constructor
      · intro hnil
        exact absurd (List.cons.inj hnil).2 (List.destutter'_ne_nil rest _)
      · intro hall
        exact absurd (hall next List.mem_cons_self).symm h

/-! ## Runs with one session -/

def statusesAfter (moves : List (Move σ)) (k : Coordinator σ) : List SessionStatus :=
  (outcomes moves k).map fun outcome => outcome.coordinator.state.status

theorem cons_statusesTold {k : Coordinator σ} {moves : List (Move σ)} {s : σ} (h : k.lock ≠ .held)
    (hcalm : ∀ move ∈ moves, move.IsCalm)
    (hs : ∀ outcome ∈ outcomes moves k, outcome.coordinator.state.session = some s) :
    k.state.status :: statusesTold s (history moves k) =
      (statusesAfter moves k).destutter' (· ≠ ·) k.state.status := by
  induction moves generalizing k with
  | nil => rfl
  | cons move rest ih =>
    have hmove := statusesTold_outcome h (hcalm move List.mem_cons_self)
      (hs (move.outcome k) List.mem_cons_self)
    have hrest := ih (move.lock_outcome_ne_held h)
      (fun m hm => hcalm m (List.mem_cons_of_mem move hm))
      fun outcome ho => hs outcome (List.mem_cons_of_mem _ ho)
    have hpath : statusesAfter (move :: rest) k = (move.outcome k).coordinator.state.status ::
        statusesAfter rest (move.outcome k).coordinator := rfl
    rw [history_cons, statusesTold_append, hmove, hpath, List.destutter'_cons, ← hrest]
    by_cases hsame : k.state.status = (move.outcome k).coordinator.state.status
    · rw [if_pos hsame, if_neg (not_not_intro hsame), List.nil_append, hsame, hrest]
    · rw [if_neg hsame, if_pos hsame, List.singleton_append]

theorem getLast?_statusesTold {k : Coordinator σ} {moves : List (Move σ)} {s : σ}
    (h : k.lock ≠ .held) (hcalm : ∀ move ∈ moves, move.IsCalm)
    (hs : ∀ outcome ∈ outcomes moves k, outcome.coordinator.state.session = some s) :
    (k.state.status :: statusesTold s (history moves k)).getLast? =
      some (after moves k).state.status := by
  rw [cons_statusesTold h hcalm hs, getLast?_destutter'_ne]
  induction moves using List.reverseRecOn with
  | nil => rfl
  | append_singleton moves move _ =>
    rw [statusesAfter, outcomes_append, after_append, List.map_append, ← List.cons_append]
    exact List.getLast?_concat

end Mirror

/-! ## Attachments -/

theorem Move.session_next_eq {policy : Policy} (state : State σ) {move : Move σ}
    (hkeeps : move.keepsSession = true) :
    (move.next policy state).session = state.session := by
  cases hs : state.session with
  | some session => exact move.session_next hs hkeeps
  | none =>
    cases move with
    | operate op i =>
      cases op with
      | change change => simp [Move.next, State.next, hs]
      | attach session => cases hkeeps
      | detach => cases hkeeps
      | loseTransport => simp [Move.next, State.next, hs]
      | fail reason => simp [Move.next, State.next, hs]
    | inspect => exact hs
    | drain count => exact hs
    | closeEvents => exact hs

/-- A session that is there was attached, and nothing was attached or detached since. -/
theorem exists_attachment {policy : Policy} {state : State σ} (hnone : state.session = none)
    {moves : List (Move σ)} {s : σ} (hs : (stateAfter policy state moves).session = some s) :
    ∃ earlier i later, moves = earlier ++ .operate (.attach s) i :: later ∧
      ∀ move ∈ later, move.keepsSession = true := by
  induction moves using List.reverseRecOn with
  | nil =>
    rw [show (stateAfter policy state []).session = none from hnone] at hs
    cases hs
  | append_singleton moves move ih =>
    have hnext : (move.next policy (stateAfter policy state moves)).session = some s := by
      rwa [stateAfter, List.foldl_append] at hs
    cases hkeeps : move.keepsSession with
    | true =>
      rw [Move.session_next_eq _ hkeeps] at hnext
      obtain ⟨earlier, i, later, rfl, hlater⟩ := ih hnext
      refine ⟨earlier, i, later ++ [move], by simp, ?_⟩
      intro m hm
      rcases List.mem_append.mp hm with hm | hm
      · exact hlater m hm
      · rw [List.mem_singleton.mp hm]
        exact hkeeps
    | false =>
      cases move with
      | operate op i =>
        cases op with
        | attach session =>
          obtain rfl : session = s := Option.some.inj hnext
          exact ⟨moves, i, [], rfl, by simp⟩
        | detach => cases hnext
        | change change => cases hkeeps
        | loseTransport => cases hkeeps
        | fail reason => cases hkeeps
      | inspect => cases hkeeps
      | drain count => cases hkeeps
      | closeEvents => cases hkeeps

theorem session_of_mem_outcomes {k : Coordinator σ} {moves : List (Move σ)} {s : σ}
    (h : k.lock ≠ .held) (hcalm : ∀ move ∈ moves, move.IsCalm) (hs : k.state.session = some s)
    (hkeeps : ∀ move ∈ moves, move.keepsSession = true) {outcome : Outcome σ}
    (hmem : outcome ∈ outcomes moves k) : outcome.coordinator.state.session = some s := by
  induction moves generalizing k with
  | nil => cases hmem
  | cons move rest ih =>
    have hnext : (move.outcome k).coordinator.state.session = some s := by
      rw [Move.state_outcome_of_isCalm h (hcalm move List.mem_cons_self),
        Move.session_next_eq _ (hkeeps move List.mem_cons_self), hs]
    rcases List.mem_cons.mp hmem with rfl | hmem
    · exact hnext
    · exact ih (move.lock_outcome_ne_held h) (fun m hm => hcalm m (List.mem_cons_of_mem move hm))
        hnext (fun m hm => hkeeps m (List.mem_cons_of_mem move hm)) hmem

section Attachment

variable {k : Coordinator σ} {s : σ} {i : Interference σ} {later : List (Move σ)}

theorem state_outcome_attach (h : k.lock ≠ .held) (hi : i.IsCalm) :
    ((Move.operate (.attach s) i).outcome k).coordinator.state = ⟨.connecting, some s, none⟩ :=
  Move.state_outcome_of_isCalm h hi

theorem session_of_mem_attachment (h : k.lock ≠ .held)
    (hcalm : ∀ move ∈ .operate (.attach s) i :: later, move.IsCalm)
    (hkeeps : ∀ move ∈ later, move.keepsSession = true) {outcome : Outcome σ}
    (hmem : outcome ∈ outcomes (.operate (.attach s) i :: later) k) :
    outcome.coordinator.state.session = some s := by
  have hattached : ((Move.operate (.attach s) i).outcome k).coordinator.state.session = some s := by
    rw [state_outcome_attach h (hcalm _ List.mem_cons_self)]
  rcases List.mem_cons.mp hmem with rfl | hmem
  · exact hattached
  · exact session_of_mem_outcomes (Move.lock_outcome_ne_held h _)
      (fun m hm => hcalm m (List.mem_cons_of_mem _ hm)) hattached hkeeps hmem

theorem statusesTold_attachment_eq_nil_iff [DecidableEq σ] (h : k.lock ≠ .held)
    (hcalm : ∀ move ∈ .operate (.attach s) i :: later, move.IsCalm)
    (hkeeps : ∀ move ∈ later, move.keepsSession = true) :
    statusesTold s (history (.operate (.attach s) i :: later) k) = [] ↔
      ∀ status ∈ k.state.status :: statusesAfter (.operate (.attach s) i :: later) k,
        status = .connecting := by
  have htold := cons_statusesTold h hcalm fun _ => session_of_mem_attachment h hcalm hkeeps
  have hfirst : .connecting ∈ statusesAfter (.operate (.attach s) i :: later) k := by
    have hattached := state_outcome_attach h (s := s) (hcalm _ List.mem_cons_self)
    exact List.mem_cons.mpr (.inl (congrArg State.status hattached).symm)
  have hnil : statusesTold s (history (.operate (.attach s) i :: later) k) = [] ↔
      ∀ status ∈ statusesAfter (.operate (.attach s) i :: later) k, status = k.state.status := by
    rw [← destutter'_ne_eq_singleton_iff, ← htold]
    simp
  rw [hnil]
  constructor
  · intro hsame status hmem
    have hconnecting := hsame .connecting hfirst
    rcases List.mem_cons.mp hmem with rfl | hmem
    · exact hconnecting.symm
    · rw [hsame status hmem, hconnecting]
  · intro hconnecting status hmem
    rw [hconnecting status (List.mem_cons_of_mem _ hmem), hconnecting _ List.mem_cons_self]

end Attachment

/-- A session that is attached was attached by some move, with none since that attaches or detaches.
What it was told from then on are the changes of the status in that time. So the last status that it
was told is the status, unless the status has been connecting all the time, from before the
attachment on: then the session was told nothing. -/
theorem last_status_told_is_status_iff [DecidableEq σ] {settings : Settings}
    {start : Coordinator σ} (hstart : Coordinator.new settings = .ok start)
    {moves : List (Move σ)} (hcalm : ∀ move ∈ moves, move.IsCalm) {s : σ}
    (hs : (after moves start).state.session = some s) :
    (∃ earlier i later, moves = earlier ++ .operate (.attach s) i :: later ∧
        ∀ move ∈ later, move.keepsSession = true) ∧
      ∀ earlier i later, moves = earlier ++ .operate (.attach s) i :: later →
        (∀ move ∈ later, move.keepsSession = true) →
        let before := after earlier start
        let epoch := .operate (.attach s) i :: later
        let told := statusesTold s (history epoch before)
        let path := before.state.status :: statusesAfter epoch before
        before.state.status :: told = path.destutter (· ≠ ·) ∧
          (told.getLast? = some (after moves start).state.status ↔
            ∃ status ∈ path, status ≠ .connecting) := by
  have hlock : start.lock ≠ .held := lock_after_new hstart []
  have hnone : start.state.session = none := by
    rw [new_eq hstart]
    rfl
  constructor
  · rw [state_after_of_isCalm hlock hcalm] at hs
    exact exists_attachment hnone hs
  · rintro earlier i later rfl hkeeps before epoch told path
    have hbefore : before.lock ≠ .held := lock_after_new hstart earlier
    have hcalmEpoch : ∀ move ∈ epoch, move.IsCalm := fun m hm =>
      hcalm m (List.mem_append_right earlier hm)
    have hserved : ∀ outcome ∈ outcomes epoch before,
        outcome.coordinator.state.session = some s :=
      fun _ => session_of_mem_attachment hbefore hcalmEpoch hkeeps
    refine ⟨cons_statusesTold hbefore hcalmEpoch hserved, ?_⟩
    have hlast : (before.state.status :: told).getLast? =
        some (after (earlier ++ epoch) start).state.status := by
      rw [after_append]
      exact getLast?_statusesTold hbefore hcalmEpoch hserved
    have hnothing : told = [] ↔ ∀ status ∈ path, status = .connecting :=
      statusesTold_attachment_eq_nil_iff hbefore hcalmEpoch hkeeps
    have hsomething : told.getLast? = some (after (earlier ++ epoch) start).state.status ↔
        told ≠ [] := by
      cases htold : told with
      | nil => simp
      | cons status rest =>
        rw [htold, List.getLast?_cons_cons] at hlast
        simpa using hlast
    rw [hsomething, ne_eq, hnothing]
    simp only [not_forall, exists_prop, ne_eq]

/-- A session that replaces one that was up, with other changes during the calls. -/
theorem session_that_replaces_one_that_is_up_hears_its_status :
    let start : Coordinator String := ⟨.skip, .new 4, .initial, .free⟩
    let wifi : Change := ⟨⟨"wifi"⟩, ["1.1.1.1"]⟩
    let crowd : Interference String := ⟨fun _ => [wifi], fun _ => false⟩
    let earlier : List (Move String) :=
      [.operate (.attach "a") .none, .operate (.change wifi) crowd]
    let later : List (Move String) := [.inspect, .operate (.fail "gone") crowd]
    let moves := earlier ++ .operate (.attach "b") crowd :: later
    Coordinator.new ⟨.skip, 4⟩ = .ok start ∧ (∀ move ∈ moves, move.IsCalm) ∧
      (after moves start).state = ⟨.error, some "b", none⟩ ∧
      statusesTold "b" (history (.operate (.attach "b") crowd :: later) (after earlier start)) =
        [.connecting, .error] := by
  intro start wifi crowd earlier later moves
  have hstart : Coordinator.new ⟨.skip, 4⟩ = .ok start := rfl
  have hcalm : ∀ move ∈ moves, move.IsCalm := by
    simp [moves, earlier, later, Move.IsCalm, Interference.IsCalm, crowd, Interference.none]
  have hstate : (after moves start).state = ⟨.error, some "b", none⟩ := by decide +kernel
  have hs : (after moves start).state.session = some "b" := by rw [hstate]
  have hkeeps : ∀ move ∈ later, move.keepsSession = true := by
    simp [later, Move.keepsSession, Operation.keepsSession]
  obtain ⟨hpath, -⟩ :=
    (last_status_told_is_status_iff hstart hcalm hs).2 earlier crowd later rfl hkeeps
  have hchanges : ((after earlier start).state.status ::
      statusesAfter (.operate (.attach "b") crowd :: later) (after earlier start)).destutter
        (· ≠ ·) = [.up, .connecting, .error] := by decide +kernel
  exact ⟨hstart, hcalm, hstate, (List.cons.inj (hpath.trans hchanges)).2⟩

/-- A session that replaces one that is still connecting hears nothing. -/
theorem session_that_replaces_one_that_connects_hears_nothing :
    let start : Coordinator String := ⟨.skip, .new 4, .initial, .free⟩
    let moves : List (Move String) :=
      [.operate (.attach "a") .none, .operate (.attach "b") .none]
    Coordinator.new ⟨.skip, 4⟩ = .ok start ∧ (∀ move ∈ moves, move.IsCalm) ∧
      (after moves start).inspect.1 = ⟨.connecting, some "b", none⟩ ∧
      statusesTold "b" (history moves start) = [] := by
  intro start moves
  have hstart : Coordinator.new ⟨.skip, 4⟩ = .ok start := rfl
  have hcalm : ∀ move ∈ moves, move.IsCalm := by
    simp [moves, Move.IsCalm, Interference.IsCalm, Interference.none]
  refine ⟨hstart, hcalm, ?_, ?_⟩
  · decide +kernel
  · decide +kernel

end PathKeeper.Coordinator
