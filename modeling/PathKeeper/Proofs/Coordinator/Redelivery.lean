import PathKeeper.Proofs.Coordinator.Events
import PathKeeper.Proofs.Coordinator.Linearization

/-!
# Redelivery

A change that is cut short moves the status and nothing else. However often that happens, and at
whatever calls, the same change can be delivered again: what it then tells the session is what
was missing when it came first.
-/

namespace PathKeeper.Coordinator

set_option autoImplicit false

variable {σ : Type}

/-! ## Deliveries that are cut short -/

/-- Deliveries of one change, each with what comes between. -/
def deliveries (change : Change) (attempts : List (Interference σ)) : List (Move σ) :=
  attempts.map (Move.operate (.change change))

def AllPanic (moves : List (Move σ)) (k : Coordinator σ) : Prop :=
  ∀ outcome ∈ outcomes moves k, outcome.panicked = true

section Deliveries

variable {change : Change} {k : Coordinator σ}

theorem AllPanic.of_cons {move : Move σ} {rest : List (Move σ)} (h : AllPanic (move :: rest) k) :
    (move.outcome k).panicked = true ∧ AllPanic rest (move.outcome k).coordinator :=
  List.forall_mem_cons.mp h

theorem state_after_deliveries (h : k.lock ≠ .held) {attempts : List (Interference σ)}
    (hpanic : AllPanic (deliveries change attempts) k) :
    (after (deliveries change attempts) k).state =
      { k.state with status := if attempts = [] then k.state.status else .up } := by
  induction attempts generalizing k with
  | nil => rfl
  | cons i rest ih =>
    obtain ⟨hfirst, hrest⟩ := hpanic.of_cons
    have hcut : (k.operate i (.change change)).coordinator.state = { k.state with status := .up } :=
      state_operate_of_panics h hfirst
    have hlater := ih (lock_operate_ne_held h i _) hrest
    have hsame : (after (deliveries change (i :: rest)) k).state =
        { k.state with status := if rest = [] then .up else .up } := by
      rw [hcut] at hlater
      exact hlater
    rw [hsame, if_neg (List.cons_ne_nil i rest), ite_self]

theorem not_committed_of_panics (h : k.lock ≠ .held) {i : Interference σ} {op : Operation σ}
    (hpanic : (k.operate i op).panicked = true) (snapshot : Snapshot) :
    .snapshotCommitted snapshot ∉ eventsIn (k.operate i op).trace := by
  intro hmem
  rw [eventsIn_operate h] at hmem
  rw [panicked_operate h, (committed_of_mem hmem).1] at hpanic
  cases hpanic

theorem not_committed_of_allPanic (h : k.lock ≠ .held) {attempts : List (Interference σ)}
    (hpanic : AllPanic (deliveries change attempts) k) (snapshot : Snapshot) :
    .snapshotCommitted snapshot ∉ eventsIn (history (deliveries change attempts) k) := by
  induction attempts generalizing k with
  | nil => exact List.not_mem_nil
  | cons i rest ih =>
    obtain ⟨hfirst, hrest⟩ := hpanic.of_cons
    intro hmem
    rw [deliveries, List.map_cons, history_cons, eventsIn_append] at hmem
    rcases List.mem_append.mp hmem with hnow | hlater
    · exact not_committed_of_panics h hfirst snapshot hnow
    · exact ih (lock_operate_ne_held h i _) hrest hlater

end Deliveries

/-! ## The delivery that returns -/

section Returns

variable {change : Change} {snapshot : Snapshot} {k : Coordinator σ} {s : σ} {i : Interference σ}

theorem callsIn_change_of_returns (h : k.lock ≠ .held) (hs : k.state.session = some s)
    (hc : change.snapshot? k.policy = some snapshot)
    (hreturns : (k.operate i (.change change)).panicked = false) :
    callsIn (k.operate i (.change change)).trace =
      reports (some s) k.state.status .up (some .connected) ++
        (corrections k.state.last snapshot).map (.command s) := by
  rw [callsIn_operate_of_returns h hreturns]
  simp only [callsDue, hs, hc]

theorem committed_of_returns (h : k.lock ≠ .held) (hs : k.state.session = some s)
    (hc : change.snapshot? k.policy = some snapshot)
    (hreturns : (k.operate i (.change change)).panicked = false) :
    .snapshotCommitted snapshot ∈ eventsIn (k.operate i (.change change)).trace ∧
      (k.operate i (.change change)).coordinator.state = ⟨.up, some s, some snapshot⟩ := by
  rw [eventsIn_operate_of_returns h hreturns, eventsDue_change_of_snapshot hs hc,
    state_operate_of_returns h hreturns]
  constructor
  · simp
  · simp only [State.next, hs, hc]

end Returns

theorem map_command_corrections (s : σ) (last : Option Snapshot) (next : Snapshot) :
    (corrections last next).map (Call.command s) =
      (if last.map Snapshot.servers = some next.servers then []
        else [.command s (.setServers next.servers)]) ++
      if last.map Snapshot.identity = some next.identity then [] else [.command s .reconnect] := by
  unfold corrections
  split <;> split <;> rfl

/-- Nobody is inside and a session is attached, whatever has happened before. Of a change that the
policy admits any number of deliveries panic, each at any of its calls. Session and snapshot are
then as before, and no commitment has been told. The next delivery that does not panic tells the
session its resolvers exactly if they differ from those before all of this, lets it reconnect
exactly if the identity differs, and commits. Only its status reports may be missing: they have
been made by the first of the others. -/
theorem interrupted_change_is_made_up_for {settings : Settings} {start before : Coordinator σ}
    (hstart : Coordinator.new settings = .ok start) {turns : List (Turn σ)}
    (hbefore : sceneAfter turns ⟨start, none⟩ = ⟨before, none⟩) {s : σ}
    (hs : before.inspect.1.session = some s) {change : Change} {snapshot : Snapshot}
    (hc : change.snapshot? settings.policy = some snapshot) {attempts : List (Interference σ)}
    (hpanic : AllPanic (deliveries change attempts) before) :
    let last := before.inspect.1.last
    let interrupted := after (deliveries change attempts) before
    interrupted.inspect.1.session = some s ∧ interrupted.inspect.1.last = last ∧
      (∀ committed, .snapshotCommitted committed ∉
        eventsIn (history (deliveries change attempts) before)) ∧
      ∀ i, (interrupted.operate i (.change change)).panicked = false →
        let outcome := interrupted.operate i (.change change)
        callsIn outcome.trace =
            (if attempts = [] then reports (some s) before.inspect.1.status .up (some .connected)
              else []) ++
            ((if last.map Snapshot.servers = some snapshot.servers then []
              else [.command s (.setServers snapshot.servers)]) ++
            if last.map Snapshot.identity = some snapshot.identity then []
              else [.command s .reconnect]) ∧
          .snapshotCommitted snapshot ∈ eventsIn outcome.trace ∧
          outcome.coordinator.inspect.1 = ⟨.up, some s, some snapshot⟩ := by
  intro last interrupted
  have hsound : (⟨start, none⟩ : Scene σ).IsSound :=
    Scene.isSound_initial (lock_after_new hstart [])
  have hscene := Scene.isSound_sceneAfter hsound turns
  have hpolicy := hsound.policy_sceneAfter turns
  rw [hbefore] at hscene hpolicy
  have hlock : before.lock ≠ .held := by simpa using hscene.held_iff
  have hadmitted : change.snapshot? interrupted.policy = some snapshot := by
    rw [policy_after, hpolicy, new_eq hstart]
    exact hc
  have hfree : interrupted.lock ≠ .held := lock_after_ne_held hlock _
  have hstate : interrupted.state =
      { before.state with status := if attempts = [] then before.state.status else .up } :=
    state_after_deliveries hlock hpanic
  have hsession : interrupted.state.session = some s := by
    rw [hstate]
    rwa [inspect_fst] at hs
  have hlast : interrupted.state.last = last := by
    rw [hstate]
    exact (congrArg State.last (inspect_fst before)).symm
  refine ⟨?_, ?_, not_committed_of_allPanic hlock hpanic, ?_⟩
  · rw [inspect_fst, hsession]
  · rw [inspect_fst, hlast]
  · intro i hreturns outcome
    obtain ⟨hmem, hdone⟩ := committed_of_returns hfree hsession hadmitted hreturns
    refine ⟨?_, hmem, (inspect_fst _).trans hdone⟩
    rw [callsIn_change_of_returns hfree hsession hadmitted hreturns, hlast,
      map_command_corrections, hstate, inspect_fst]
    congr 1
    split
    · rfl
    · exact if_pos rfl

/-- The user never heard that the session failed. The next network is cut short when the session
hears its status, when it hears its resolvers and when it reconnects, with other changes between;
the fourth delivery goes through. -/
theorem fourth_delivery_goes_through :
    let start : Coordinator String := ⟨.skip, .new 9, .initial, .free⟩
    let wifi : Change := ⟨⟨"wifi"⟩, ["1.1.1.1"]⟩
    let cell : Change := ⟨⟨"cell"⟩, ["8.8.8.8"]⟩
    let google : Servers := [.v4 ⟨8, 8, 8, 8⟩]
    let broken : Call String → Interference String := fun call => ⟨fun _ => [wifi], (· = call)⟩
    let moves : List (Move String) := [.operate (.attach "s") .none, .operate (.change wifi) .none,
      .operate (.fail "lost") (broken (.notify .error))]
    let attempts := [broken (.command "s" (.setStatus .up)),
      broken (.command "s" (.setServers google)), broken (.command "s" .reconnect)]
    let before := after moves start
    let outcome := (after (deliveries cell attempts) before).operate .none (.change cell)
    Coordinator.new ⟨.skip, 9⟩ = .ok start ∧
      before.inspect.1 = ⟨.error, some "s", some ⟨⟨"wifi"⟩, [.v4 ⟨1, 1, 1, 1⟩]⟩⟩ ∧
      AllPanic (deliveries cell attempts) before ∧
      callsIn outcome.trace = [.command "s" (.setServers google), .command "s" .reconnect] ∧
      outcome.coordinator.inspect.1 = ⟨.up, some "s", some ⟨⟨"cell"⟩, google⟩⟩ := by
  intro start wifi cell google broken moves attempts before outcome
  have hstart : Coordinator.new ⟨.skip, 9⟩ = .ok start := rfl
  have hlock : start.lock ≠ .held := lock_after_new hstart []
  have hbefore : before.inspect.1 =
      ⟨.error, some "s", some ⟨⟨"wifi"⟩, [.v4 ⟨1, 1, 1, 1⟩]⟩⟩ := by decide +kernel
  have hs : before.inspect.1.session = some "s" := by rw [hbefore]
  have hc : cell.snapshot? .skip = some ⟨⟨"cell"⟩, google⟩ := by decide +kernel
  have hpanic : AllPanic (deliveries cell attempts) before := by
    unfold AllPanic
    decide +kernel
  have hreturns : outcome.panicked = false := by decide +kernel
  have hplays : sceneAfter (turnsOf moves start) ⟨start, none⟩ = ⟨before, none⟩ :=
    (plays_turnsOf hlock moves).1
  obtain ⟨-, -, -, hnext⟩ := interrupted_change_is_made_up_for hstart hplays hs hc hpanic
  obtain ⟨hcalls, -, hdone⟩ := hnext .none hreturns
  have hservers : (some [.v4 ⟨1, 1, 1, 1⟩] : Option Servers) ≠ some google := by decide
  have hidentity : (some ⟨"wifi"⟩ : Option Identity) ≠ some ⟨"cell"⟩ := by decide
  refine ⟨hstart, hbefore, hpanic, ?_, hdone⟩
  rw [hbefore, if_neg (List.cons_ne_nil _ _)] at hcalls
  rw [Option.map_some, if_neg hservers, Option.map_some, if_neg hidentity] at hcalls
  exact hcalls

end PathKeeper.Coordinator
