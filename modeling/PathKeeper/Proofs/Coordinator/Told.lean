import PathKeeper.Proofs.Coordinator.Corrections
import PathKeeper.Proofs.Coordinator.Recovery

/-!
# What a session was told last

A session learns resolvers before the snapshot is committed. If the operation panics in between,
the session has heard of resolvers that nobody remembers, and a change back to the remembered ones
finds nothing to correct. So what the session was told last is what is committed exactly as long as
the last operation that told it something was not cut short.
-/

namespace PathKeeper.Coordinator

set_option autoImplicit false

variable {σ : Type}

/-- The resolvers that are remembered as told. -/
def State.servers? (state : State σ) : Option Servers := state.last.map Snapshot.servers

section Told

variable [DecidableEq σ]

def tells (s : σ) (outcome : Outcome σ) : Bool := !(serversTold s outcome.trace).isEmpty

def lastTelling (s : σ) (outcomes : List (Outcome σ)) : Option (Outcome σ) :=
  (outcomes.filter (tells s)).getLast?

theorem lastTelling_append_of_nil {s : σ} {outcome : Outcome σ}
    (h : serversTold s outcome.trace = []) (outcomes : List (Outcome σ)) :
    lastTelling s (outcomes ++ [outcome]) = lastTelling s outcomes := by
  simp [lastTelling, tells, h]

theorem lastTelling_append_of_ne_nil {s : σ} {outcome : Outcome σ}
    (h : serversTold s outcome.trace ≠ []) (outcomes : List (Outcome σ)) :
    lastTelling s (outcomes ++ [outcome]) = some outcome := by
  simp [lastTelling, tells, h]

/-- What a session was told last, it was told by the last outcome that told it anything. -/
theorem getLast?_serversTold (s : σ) (outcomes : List (Outcome σ)) :
    (serversTold s (outcomes.flatMap Outcome.trace)).getLast? =
      (lastTelling s outcomes).bind fun outcome => (serversTold s outcome.trace).getLast? := by
  induction outcomes using List.reverseRecOn with
  | nil => rfl
  | append_singleton outcomes outcome ih =>
    rw [List.flatMap_append, serversTold_append, List.flatMap_singleton]
    by_cases h : serversTold s outcome.trace = []
    · rw [lastTelling_append_of_nil h, h, List.append_nil, ih]
    · rw [lastTelling_append_of_ne_nil h, List.getLast?_append_of_ne_nil _ h, Option.bind_some]

end Told

/-! ## Moves that attach nothing -/

theorem Operation.eq_detach_or_keepsSession {op : Operation σ} (h : op.attaches = false) :
    op = .detach ∨ op.keepsSession = true := by
  cases op with
  | attach session => cases h
  | detach => exact .inl rfl
  | change change => exact .inr rfl
  | loseTransport => exact .inr rfl
  | fail reason => exact .inr rfl

section Step

variable {k : Coordinator σ} {s : σ}

theorem Move.state_outcome_of_initial (h : k.lock ≠ .held) (hstate : k.state = .initial)
    {move : Move σ} (hno : move.attaches = false) :
    (move.outcome k).coordinator.state = .initial := by
  cases move with
  | operate op i =>
    change (k.operate i op).coordinator.state = .initial
    cases hpanicked : (k.operate i op).panicked with
    | true =>
      have hcalls := callsDue_ne_nil_of_panics h hpanicked
      rw [hstate] at hcalls
      exact absurd (callsDue_initial k.policy hno) hcalls
    | false => rw [state_operate_of_returns h hpanicked, hstate, State.next_initial k.policy hno]
  | inspect => rw [Move.state_outcome_inspect, hstate]
  | drain count => exact hstate
  | closeEvents => exact hstate

theorem Move.session_outcome (h : k.lock ≠ .held) (hs : k.state.session = some s) {move : Move σ}
    (hno : move.attaches = false) :
    (move.outcome k).coordinator.state.session = some s ∨
      (move.outcome k).coordinator.state = .initial := by
  cases move with
  | operate op i =>
    change (k.operate i op).coordinator.state.session = _ ∨ (k.operate i op).coordinator.state = _
    cases hpanicked : (k.operate i op).panicked with
    | true =>
      rw [state_operate_of_panics h hpanicked, (State.cut_of_not_attaches _ hno).1]
      exact .inl hs
    | false =>
      rw [state_operate_of_returns h hpanicked]
      rcases Operation.eq_detach_or_keepsSession hno with rfl | hkeeps
      · exact .inr rfl
      · exact .inl (State.session_next k.policy hs hkeeps)
  | inspect =>
    rw [Move.state_outcome_inspect]
    exact .inl hs
  | drain count => exact .inl hs
  | closeEvents => exact .inl hs

variable [DecidableEq σ]

theorem servers?_callsDue (policy : Policy) {state : State σ} (hs : state.session = some s)
    (op : Operation σ) :
    ((callsDue policy state op).filterMap (Call.correction? s)).filterMap Command.servers? =
      match op.snapshot? policy with
      | some snapshot =>
        if state.servers? = some snapshot.servers then [] else [snapshot.servers]
      | none => [] := by
  cases hsnapshot : op.snapshot? policy with
  | none =>
    rw [Operation.correction?_callsDue_of_none hsnapshot]
    rfl
  | some snapshot =>
    rw [Operation.correction?_callsDue_of_some hs hsnapshot]
    exact servers?_corrections state.last snapshot

/-- What a move that attaches nothing does to a session and to what is remembered as told: it tells
only resolvers that are not remembered, and they are remembered unless it is cut short. -/
inductive Accounts (s : σ) (before : State σ) (outcome : Outcome σ) : Prop where
  | cleared (hstate : outcome.coordinator.state = .initial)
  | silent (hnone : serversTold s outcome.trace = [])
      (hsame : outcome.coordinator.state.servers? = before.servers?)
  | told (servers : Servers) (htold : serversTold s outcome.trace = [servers])
      (hnew : before.servers? ≠ some servers)
      (hafter : outcome.coordinator.state.servers? =
        if outcome.panicked then before.servers? else some servers)

theorem accounts_operate_of_panics (h : k.lock ≠ .held) (hs : k.state.session = some s)
    {op : Operation σ} (hno : op.attaches = false) {i : Interference σ}
    (hpanicked : (k.operate i op).panicked = true) :
    Accounts s k.state (k.operate i op) := by
  have hsame : (k.operate i op).coordinator.state.servers? = k.state.servers? := by
    rw [state_operate_of_panics h hpanicked]
    exact congrArg (Option.map Snapshot.servers) (State.cut_of_not_attaches _ hno).2
  have hpart : serversTold s (k.operate i op).trace <+:
      ((callsDue k.policy k.state op).filterMap (Call.correction? s)).filterMap
        Command.servers? :=
    ((callsIn_operate_isPrefix h i op).filterMap _).filterMap _
  rw [servers?_callsDue k.policy hs op] at hpart
  split at hpart
  · next snapshot _ =>
    split at hpart
    · exact .silent (List.prefix_nil.mp hpart) hsame
    · next hnew =>
      rcases List.prefix_cons_iff.mp hpart with hnil | ⟨rest, htold, hrest⟩
      · exact .silent hnil hsame
      · rw [List.prefix_nil.mp hrest] at htold
        exact .told snapshot.servers htold hnew (by rw [hsame, hpanicked, if_pos rfl])
  · exact .silent (List.prefix_nil.mp hpart) hsame

theorem accounts_operate_of_returns (h : k.lock ≠ .held) (hs : k.state.session = some s)
    {op : Operation σ} (hno : op.attaches = false) {i : Interference σ}
    (hreturns : (k.operate i op).panicked = false) :
    Accounts s k.state (k.operate i op) := by
  have hstate := state_operate_of_returns h hreturns
  rcases Operation.eq_detach_or_keepsSession hno with rfl | hkeeps
  · exact .cleared hstate
  · have htold : serversTold s (k.operate i op).trace =
        ((callsDue k.policy k.state op).filterMap (Call.correction? s)).filterMap
          Command.servers? := by
      rw [← callsIn_operate_of_returns h hreturns]
      rfl
    have hlast := State.last_next k.policy hs hkeeps
    rw [← hstate] at hlast
    rw [servers?_callsDue k.policy hs op] at htold
    split at htold
    · next snapshot hsnapshot =>
      have hservers : (k.operate i op).coordinator.state.servers? = some snapshot.servers := by
        rw [State.servers?, hlast, hsnapshot]
        rfl
      split at htold
      · next hold => exact .silent htold (hservers.trans hold.symm)
      · next hnew =>
        exact .told snapshot.servers htold hnew (by rw [hservers, hreturns]; rfl)
    · next hnone =>
      rw [hnone, Option.none_or] at hlast
      exact .silent htold (congrArg (Option.map Snapshot.servers) hlast)

theorem Move.accounts_outcome (h : k.lock ≠ .held) (hs : k.state.session = some s)
    {move : Move σ} (hno : move.attaches = false) : Accounts s k.state (move.outcome k) := by
  cases move with
  | operate op i =>
    cases hpanicked : (k.operate i op).panicked with
    | true => exact accounts_operate_of_panics h hs hno hpanicked
    | false => exact accounts_operate_of_returns h hs hno hpanicked
  | inspect =>
    apply Accounts.silent
    · simp [serversTold, correctionsTo, Move.trace_outcome_inspect]
    · rw [Move.state_outcome_inspect]
  | drain count => exact .silent rfl rfl
  | closeEvents => exact .silent rfl rfl

end Step

/-! ## Runs without another attachment -/

section Runs

variable [DecidableEq σ] {s : σ}

/-- Resolvers are remembered only if some have been told, and those told last are the remembered
ones exactly if they were not told in an operation that was cut short. -/
def Remembers (s : σ) (outcomes : List (Outcome σ)) (state : State σ) : Prop :=
  ∀ servers, state.servers? = some servers →
    ∃ outcome told, lastTelling s outcomes = some outcome ∧
      serversTold s outcome.trace = [told] ∧ (outcome.panicked = false ↔ told = servers)

theorem Remembers.append {k : Coordinator σ} {outcomes : List (Outcome σ)} {move : Move σ}
    (h : k.lock ≠ .held) (hs : k.state.session = some s) (hno : move.attaches = false)
    (hremembers : Remembers s outcomes k.state) :
    Remembers s (outcomes ++ [move.outcome k]) (move.outcome k).coordinator.state := by
  intro servers hservers
  cases Move.accounts_outcome h hs hno with
  | cleared hstate =>
    rw [hstate] at hservers
    cases hservers
  | silent hnone hsame =>
    rw [lastTelling_append_of_nil hnone]
    exact hremembers servers (hsame ▸ hservers)
  | told new htold hnew hafter =>
    have htells : serversTold s (move.outcome k).trace ≠ [] := by simp [htold]
    refine ⟨move.outcome k, new, lastTelling_append_of_ne_nil htells _, htold, ?_⟩
    rw [hafter] at hservers
    cases hpanicked : (move.outcome k).panicked with
    | true =>
      -- The old resolvers are still remembered, and the session was told others.
      rw [hpanicked, if_pos rfl] at hservers
      constructor
      · intro hreturned
        cases hreturned
      · rintro rfl
        exact absurd hservers hnew
    | false => simpa [hpanicked] using hservers

/-- What holds from an attachment on, as long as nothing else is attached. -/
theorem remembers_after_attachment {k : Coordinator σ} (h : k.lock ≠ .held) (i : Interference σ)
    {later : List (Move σ)} (hno : ∀ move ∈ later, move.attaches = false) :
    let moves := .operate (.attach s) i :: later
    Remembers s (outcomes moves k) (after moves k).state ∧
      ((after moves k).state.session = some s ∨ (after moves k).state = .initial) := by
  induction later using List.reverseRecOn with
  | nil =>
    have hstate : (k.operate i (.attach s)).coordinator.state = ⟨.connecting, some s, none⟩ := by
      cases hpanicked : (k.operate i (.attach s)).panicked with
      | true => exact state_operate_of_panics h hpanicked
      | false => exact state_operate_of_returns h hpanicked
    change Remembers s _ (k.operate i (.attach s)).coordinator.state ∧
      ((k.operate i (.attach s)).coordinator.state.session = some s ∨
        (k.operate i (.attach s)).coordinator.state = .initial)
    rw [hstate]
    refine ⟨?_, .inl rfl⟩
    intro servers hservers
    cases hservers
  | append_singleton later move ih =>
    intro moves
    obtain ⟨hremembers, hsession⟩ := ih fun m hm => hno m (List.mem_append_left _ hm)
    have hmove : move.attaches = false := hno move (by simp)
    have hlock := lock_after_ne_held h (.operate (.attach s) i :: later)
    have hmoves : moves = (.operate (.attach s) i :: later) ++ [move] := rfl
    rw [hmoves, outcomes_append, after_append]
    rcases hsession with hs | hinitial
    · exact ⟨hremembers.append hlock hs hmove, Move.session_outcome hlock hs hmove⟩
    · have hstate := Move.state_outcome_of_initial hlock hinitial hmove
      refine ⟨?_, .inr hstate⟩
      intro servers hservers
      change (move.outcome _).coordinator.state.servers? = _ at hservers
      rw [hstate] at hservers
      cases hservers

end Runs

/-! ## Commitments -/

theorem committed_of_mem_eventsIn {k : Coordinator σ} (h : k.lock ≠ .held) {move : Move σ}
    {snapshot : Snapshot} (hmem : .snapshotCommitted snapshot ∈ eventsIn (move.outcome k).trace) :
    move.attaches = false ∧ (∃ session, k.state.session = some session) ∧
      (move.outcome k).coordinator.state = ⟨.up, k.state.session, some snapshot⟩ := by
  cases move with
  | operate op i =>
    change .snapshotCommitted snapshot ∈ eventsIn (k.operate i op).trace at hmem
    rw [eventsIn_operate h] at hmem
    obtain ⟨hreturns, change, session, rfl, hs, hc⟩ := committed_of_mem hmem
    rw [← panicked_operate h] at hreturns
    refine ⟨rfl, ⟨session, hs⟩, ?_⟩
    change (k.operate i (.change change)).coordinator.state = _
    rw [state_operate_of_returns h hreturns, hs]
    simp only [State.next, hs, hc]
  | inspect =>
    rw [Move.trace_outcome_inspect, eventsIn_recovery] at hmem
    cases hmem
  | drain count => cases hmem
  | closeEvents => cases hmem

/-- After a change that commits a snapshot, the session was last told the committed resolvers
exactly if the last operation that told it any was not cut short. -/
theorem told_committed_servers_iff [DecidableEq σ] {settings : Settings} {start : Coordinator σ}
    (hstart : Coordinator.new settings = .ok start) (earlier : List (Move σ)) {s : σ}
    {i : Interference σ} {later : List (Move σ)} (hno : ∀ move ∈ later, move.attaches = false)
    {move : Move σ} {snapshot : Snapshot}
    (hcommitted : .snapshotCommitted snapshot ∈
      eventsIn (move.outcome (after (earlier ++ .operate (.attach s) i :: later) start)).trace) :
    let before := after earlier start
    let moves := .operate (.attach s) i :: later ++ [move]
    (after moves before).inspect.1 = ⟨.up, some s, some snapshot⟩ ∧
      ((serversTold s (history moves before)).getLast? = some snapshot.servers ↔
        (lastTelling s (outcomes moves before)).map Outcome.panicked = some false) := by
  intro before moves
  rw [after_append] at hcommitted
  have hlock : before.lock ≠ .held := lock_after_new hstart earlier
  have hfront := lock_after_ne_held hlock (.operate (.attach s) i :: later)
  obtain ⟨hmove, ⟨session, hsession⟩, hstate⟩ := committed_of_mem_eventsIn hfront hcommitted
  have hs : (after (.operate (.attach s) i :: later) before).state.session = some s := by
    rcases (remembers_after_attachment hlock i hno).2 with hs | hinitial
    · exact hs
    · rw [hinitial] at hsession
      cases hsession
  have hall : ∀ m ∈ later ++ [move], m.attaches = false := by
    intro m hm
    rcases List.mem_append.mp hm with hm | hm
    · exact hno m hm
    · rw [List.mem_singleton.mp hm]
      exact hmove
  have hafter : (after moves before).state = ⟨.up, some s, some snapshot⟩ := by
    rw [after_append, ← hs]
    exact hstate
  have hremembers : Remembers s (outcomes moves before) (after moves before).state :=
    (remembers_after_attachment hlock i hall).1
  obtain ⟨outcome, told, htelling, htold, hiff⟩ :=
    hremembers snapshot.servers (congrArg State.servers? hafter)
  refine ⟨by rw [inspect_fst, hafter], ?_⟩
  rw [history, getLast?_serversTold, htelling, Option.bind_some, htold, List.getLast?_singleton]
  simpa using hiff.symm

/-- A panic in the notifier, before the session hears of anything, does no harm. -/
theorem resolvers_are_told_after_early_panic :
    let start : Coordinator String := ⟨.skip, .new 4, .initial, .free⟩
    let wifi : Change := ⟨⟨"wifi"⟩, ["1.1.1.1"]⟩
    let mute : Interference String := ⟨fun _ => [], (· = .notify .connected)⟩
    let later : List (Move String) := [.operate (.change wifi) mute, .inspect]
    let moves := .operate (.attach "s") .none :: later ++ [.operate (.change wifi) .none]
    let snapshot : Snapshot := ⟨⟨"wifi"⟩, [.v4 ⟨1, 1, 1, 1⟩]⟩
    Coordinator.new ⟨.skip, 4⟩ = .ok start ∧ (∀ move ∈ later, move.attaches = false) ∧
      .snapshotCommitted snapshot ∈ eventsIn ((Move.operate (.change wifi) .none).outcome
        (after (.operate (.attach "s") .none :: later) start)).trace ∧
      (serversTold "s" (history moves start)).getLast? = some snapshot.servers := by
  intro start wifi mute later moves snapshot
  have hstart : Coordinator.new ⟨.skip, 4⟩ = .ok start := rfl
  have hno : ∀ move ∈ later, move.attaches = false := by
    simp [later, Move.attaches, Operation.attaches]
  have hevents : eventsIn ((Move.operate (.change wifi) .none).outcome
      (after (.operate (.attach "s") .none :: later) start)).trace =
        [.serversUpdated snapshot.servers, .reconnectRequested ⟨"wifi"⟩,
          .snapshotCommitted snapshot] := by decide +kernel
  have hcommitted : .snapshotCommitted snapshot ∈
      eventsIn ((Move.operate (.change wifi) .none).outcome
        (after (.operate (.attach "s") .none :: later) start)).trace := by
    rw [hevents]
    simp
  have htelling : (lastTelling "s" (outcomes moves start)).map Outcome.panicked = some false := by
    decide +kernel
  have htold := told_committed_servers_iff hstart [] hno hcommitted
  exact ⟨hstart, hno, hcommitted, htold.2.mpr htelling⟩

/-- A change back to the remembered network after a panic leaves the session with the resolvers of
the other one. -/
theorem session_keeps_other_servers :
    let start : Coordinator String := ⟨.skip, .new 4, .initial, .free⟩
    let wifi : Change := ⟨⟨"wifi"⟩, ["1.1.1.1"]⟩
    let cell : Change := ⟨⟨"cell"⟩, ["8.8.8.8"]⟩
    let broken : Interference String := ⟨fun _ => [], (· = .command "s" .reconnect)⟩
    let front : List (Move String) :=
      [.operate (.attach "s") .none, .operate (.change wifi) .none, .operate (.change cell) broken]
    let move : Move String := .operate (.change wifi) .none
    Coordinator.new ⟨.skip, 4⟩ = .ok start ∧
      (move.outcome (after front start)).panicked = false ∧
      eventsIn (move.outcome (after front start)).trace =
        [.snapshotCommitted ⟨⟨"wifi"⟩, [.v4 ⟨1, 1, 1, 1⟩]⟩] ∧
      (after (front ++ [move]) start).inspect.1 =
        ⟨.up, some "s", some ⟨⟨"wifi"⟩, [.v4 ⟨1, 1, 1, 1⟩]⟩⟩ ∧
      serversTold "s" (history (front ++ [move]) start) =
        [[.v4 ⟨1, 1, 1, 1⟩], [.v4 ⟨8, 8, 8, 8⟩]] := by
  intro start wifi cell broken front move
  have hstart : Coordinator.new ⟨.skip, 4⟩ = .ok start := rfl
  refine ⟨hstart, ?_, ?_, ?_, ?_⟩
  · decide +kernel
  · decide +kernel
  · decide +kernel
  · decide +kernel

end PathKeeper.Coordinator
