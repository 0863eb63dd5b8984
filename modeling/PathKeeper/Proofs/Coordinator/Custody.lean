import PathKeeper.Proofs.Coordinator.Linearization

/-!
# Who is driven

Commands go to the session that is stored at that moment, and to no other. An attachment stores the
new session before anything else. So a session that is replaced, or detached to the end, hears
nothing until it is attached again, whatever comes meanwhile and whichever call panics.
-/

namespace PathKeeper.Coordinator

set_option autoImplicit false

variable {σ : Type}

/-! ## Scripts -/

/-- Commands go to the session, and it stays in place. -/
def Action.Keeps (session : Option σ) : Action σ → Prop
  | .call (.command s _) => session = some s
  | .write state => state.session = session
  | _ => True

theorem keeps_transition (state : State σ) (status : SessionStatus) (event : Option StatusEvent) :
    ∀ action ∈ transition state status event, action.Keeps state.session := by
  unfold transition
  split
  · simp
  · cases state.session <;> cases event <;> simp [tell, announce, Action.Keeps]

theorem keeps_commit {state : State σ} {session : σ} (hs : state.session = some session)
    (snapshot : Snapshot) :
    ∀ action ∈ commit state session snapshot, action.Keeps state.session := by
  have hservers : ∀ action ∈ updateServers session state.last snapshot,
      action.Keeps state.session := by
    unfold updateServers
    split <;> simp [Action.Keeps, hs]
  have hreconnect : ∀ action ∈ reconnectIfMoved session state.last snapshot,
      action.Keeps state.session := by
    unfold reconnectIfMoved
    split <;> simp [Action.Keeps, hs]
  have hremark : ∀ action ∈ (remarkSame state.last snapshot : List (Action σ)),
      action.Keeps state.session := by
    unfold remarkSame
    split <;> simp [Action.Keeps]
  have hend : ∀ action ∈ ([.emit (.snapshotCommitted snapshot),
      .write ⟨.up, some session, some snapshot⟩] : List (Action σ)),
      action.Keeps state.session := by
    simp [Action.Keeps, hs]
  simp only [commit, List.forall_mem_append]
  exact ⟨⟨⟨⟨keeps_transition _ _ _, hservers⟩, hreconnect⟩, hremark⟩, hend⟩

theorem keeps_onAttach (state : State σ) (session : σ) :
    ∀ action ∈ onAttach state session, action.Keeps (some session) := by
  have hmoves := keeps_transition ⟨state.status, some session, none⟩ .connecting none
  simp only [onAttach, List.forall_mem_append, List.forall_mem_cons]
  exact ⟨⟨rfl, hmoves⟩, by simp [Action.Keeps]⟩

/-- All of a detachment but its end. -/
def beforeRelease (state : State σ) : List (Action σ) :=
  (if state.session.isNone then [.note .nothingToDetach] else []) ++
    transition state .down (some .disconnected)

theorem onDetach_eq (state : State σ) :
    onDetach state =
      beforeRelease state ++ [.write .initial, .note .detached, .emit .sessionDetached] := rfl

theorem keeps_beforeRelease (state : State σ) :
    ∀ action ∈ beforeRelease state, action.Keeps state.session := by
  rw [beforeRelease, List.forall_mem_append]
  refine ⟨?_, keeps_transition _ _ _⟩
  split <;> simp [Action.Keeps]

/-- Only an attachment and a detachment put another session in place. -/
theorem keeps_script (policy : Policy) (state : State σ) {op : Operation σ}
    (hattach : ∀ session, op ≠ .attach session) (hdetach : op ≠ .detach) :
    ∀ action ∈ script policy state op, action.Keeps state.session := by
  cases op with
  | change change =>
    cases hs : state.session with
    | none => simp [script, onChange, hs, Action.Keeps]
    | some session =>
      cases hc : change.snapshot? policy with
      | none =>
        obtain ⟨fault, hfault⟩ := Change.normalize_of_snapshot?_eq_none hc
        simp [script, onChange, hs, hfault, Action.Keeps]
      | some snapshot =>
        rw [script_change_of_snapshot hs hc, List.forall_mem_append, ← hs]
        exact ⟨by simp [skipNotes, Action.Keeps], keeps_commit hs snapshot⟩
  | attach session => exact absurd rfl (hattach session)
  | detach => exact absurd rfl hdetach
  | loseTransport =>
    simp only [script, onLoseTransport]
    split
    · simp [Action.Keeps]
    · exact keeps_transition _ _ _
  | fail reason =>
    simp only [script, onFail]
    split
    · simp [Action.Keeps]
    · rw [List.forall_mem_cons]
      exact ⟨trivial, keeps_transition _ _ _⟩

/-- Each command goes to the session that is stored when it is sent. -/
def IsFaithful : State σ → List (Action σ) → Prop
  | _, [] => True
  | state, action :: rest =>
    (∀ session command, action = .call (.command session command) →
      state.session = some session) ∧ IsFaithful (action.settle state) rest

theorem isFaithful_append {state : State σ} {front back : List (Action σ)}
    (hfront : IsFaithful state front) (hback : IsFaithful (settled state front) back) :
    IsFaithful state (front ++ back) := by
  induction front generalizing state with
  | nil => exact hback
  | cons action rest ih => exact ⟨hfront.1, ih hfront.2 hback⟩

theorem isFaithful_of_keeps {state : State σ} {actions : List (Action σ)}
    (h : ∀ action ∈ actions, action.Keeps state.session) : IsFaithful state actions := by
  induction actions generalizing state with
  | nil => trivial
  | cons action rest ih =>
    obtain ⟨haction, hrest⟩ := List.forall_mem_cons.mp h
    have hsame : (action.settle state).session = state.session := by
      cases action with
      | write written => exact haction
      | note note => rfl
      | call call => rfl
      | emit event => rfl
    refine ⟨?_, ih (hsame ▸ hrest)⟩
    rintro session command rfl
    exact haction

theorem isFaithful_script (policy : Policy) (state : State σ) (op : Operation σ) :
    IsFaithful state (script policy state op) := by
  cases op with
  | attach session =>
    -- the session is in place before the first command
    have hrest := (List.forall_mem_cons.mp (keeps_onAttach state session)).2
    exact ⟨by simp, isFaithful_of_keeps hrest⟩
  | detach =>
    change IsFaithful state (onDetach state)
    rw [onDetach_eq]
    exact isFaithful_append (isFaithful_of_keeps (keeps_beforeRelease state))
      (by simp [IsFaithful])
  | change change => exact isFaithful_of_keeps (keeps_script _ _ (by simp) (by simp))
  | loseTransport => exact isFaithful_of_keeps (keeps_script _ _ (by simp) (by simp))
  | fail reason => exact isFaithful_of_keeps (keeps_script _ _ (by simp) (by simp))

/-! ## Visits -/

structure Visit.IsLoyal (state : State σ) (visit : Visit σ) : Prop where
  faithful : IsFaithful state visit.rest
  attaching : ∀ session, visit.errand = .operate (.attach session) →
    ∀ action ∈ visit.rest, action.Keeps (some session)
  detaching : visit.errand = .operate .detach → settled state visit.rest = .initial

namespace Visit

theorem isLoyal_entering (policy : Policy) (state : State σ) (errand : Errand σ) :
    IsLoyal state ⟨errand, errand.script policy state, false⟩ where
  faithful := by
    cases errand with
    | operate op => exact isFaithful_script policy state op
    | look => trivial
  attaching := by
    rintro session rfl
    exact keeps_onAttach state session
  detaching := by
    rintro rfl
    exact settled_script policy state .detach

theorem IsLoyal.act {state : State σ} {errand : Errand σ} {action : Action σ}
    {rest : List (Action σ)} {before : Bool} (h : IsLoyal state ⟨errand, action :: rest, before⟩)
    (after : Bool) : IsLoyal (action.settle state) ⟨errand, rest, after⟩ where
  faithful := h.faithful.2
  attaching session herrand := (List.forall_mem_cons.mp (h.attaching session herrand)).2
  detaching := h.detaching

end Visit

namespace Scene

def IsLoyal (scene : Scene σ) : Prop :=
  ∀ visit, scene.visit = some visit → visit.IsLoyal scene.coordinator.state

theorem isLoyal_of_none {scene : Scene σ} (h : scene.visit = none) : scene.IsLoyal := by
  intro visit hvisit
  cases h.symm.trans hvisit

theorem IsLoyal.step {scene : Scene σ} (hsound : scene.IsSound) (h : scene.IsLoyal)
    (turn : Turn σ) : (turn.step scene).1.IsLoyal := by
  have hcomes := hsound.comes turn
  generalize turn.step scene = next at hcomes
  cases hcomes with
  | refused hvisit => exact fun visit hsome => h visit (hvisit.trans hsome)
  | waits hvisit herrand => exact h
  | enters hvisit =>
    intro visit hsome
    cases hsome
    exact Visit.isLoyal_entering _ _ _
  | acts hvisit =>
    intro visit hsome
    cases hsome
    rw [state_perform_one]
    exact (h _ hvisit).act _
  | leaves hvisit => exact isLoyal_of_none rfl
  | panics hvisit => exact isLoyal_of_none rfl
  | passes hturn channel => exact h

theorem IsLoyal.sceneAfter {scene : Scene σ} (hsound : scene.IsSound) (h : scene.IsLoyal)
    (turns : List (Turn σ)) : (sceneAfter turns scene).IsLoyal := by
  induction turns generalizing scene with
  | nil => exact h
  | cons turn rest ih => exact ih (hsound.step turn) (h.step hsound turn)

/-- A command is an action of the thread inside. -/
theorem IsSound.action_of_command {scene : Scene σ} (hsound : scene.IsSound) {turn : Turn σ}
    {session : σ} {command : Command}
    (h : .command session command ∈ callsIn (turn.step scene).2) :
    ∃ errand rest calling,
      scene.visit = some ⟨errand, .call (.command session command) :: rest, calling⟩ := by
  have hcomes := hsound.comes turn
  generalize turn.step scene = next at hcomes h
  cases hcomes with
  | refused hvisit =>
    rw [callsIn_refuse] at h
    cases h
  | waits hvisit herrand => cases h
  | enters hvisit =>
    rw [callsIn_recovery] at h
    cases h
  | @acts errand action rest calling hvisit =>
    rw [callsIn_perform_one] at h
    cases action with
    | call call =>
      obtain rfl : .command session command = call := by simpa using h
      exact ⟨errand, rest, calling, hvisit⟩
    | note note => cases h
    | write state => cases h
    | emit event => cases h
  | leaves hvisit => cases h
  | panics hvisit => cases h
  | passes hturn channel => cases h

end Scene

/-! ## Sessions that are let go -/

/-- No command to the session, and it is not put in place. -/
def Action.Spares (session : σ) : Action σ → Prop
  | .call (.command s _) => s ≠ session
  | .write state => state.session ≠ some session
  | _ => True

theorem Action.Keeps.spares {session : σ} {kept : Option σ} (hkept : kept ≠ some session)
    {action : Action σ} (h : action.Keeps kept) : action.Spares session := by
  cases action with
  | call call =>
    cases call with
    | command s command =>
      rintro rfl
      exact hkept h
    | notify event => trivial
  | write state => exact fun hstored => hkept (h.symm.trans hstored)
  | note note => trivial
  | emit event => trivial

theorem spares_onAttach {session new : σ} (hnew : session ≠ new) (state : State σ) :
    ∀ action ∈ onAttach state new, action.Spares session := fun action hmem =>
  (keeps_onAttach state new action hmem).spares fun heq => hnew (Option.some.inj heq).symm

theorem spares_onDetach {session : σ} {state : State σ} (hstate : state.session ≠ some session) :
    ∀ action ∈ onDetach state, action.Spares session := by
  rw [onDetach_eq, List.forall_mem_append]
  exact ⟨fun action hmem => (keeps_beforeRelease state action hmem).spares hstate,
    by simp [Action.Spares, State.initial]⟩

theorem spares_script {session : σ} (policy : Policy) {state : State σ}
    (hstate : state.session ≠ some session) {op : Operation σ} (hop : op ≠ .attach session) :
    ∀ action ∈ script policy state op, action.Spares session := by
  intro action hmem
  cases op with
  | attach new => exact spares_onAttach (fun heq => hop (congrArg _ heq.symm)) state action hmem
  | detach => exact spares_onDetach hstate action hmem
  | change change => exact (keeps_script _ _ (by simp) (by simp) action hmem).spares hstate
  | loseTransport => exact (keeps_script _ _ (by simp) (by simp) action hmem).spares hstate
  | fail reason => exact (keeps_script _ _ (by simp) (by simp) action hmem).spares hstate

namespace Scene

/-- The session gets no command before it is attached again. -/
def IsSilentTo (session : σ) (scene : Scene σ) : Prop :=
  ∀ later, .operate (.attach session) .none ∉ entered later scene →
    ∀ command, .command session command ∉ callsIn (traceOf later scene)

/-- The session has no part in what is pending. It is no longer stored, or the thread inside is
about to store another one. -/
structure Spares (session : σ) (scene : Scene σ) : Prop where
  pending : ∀ action ∈ scene.pending, action.Spares session
  stored : scene.coordinator.state.session = some session →
    ∃ errand state rest, scene.visit = some ⟨errand, .write state :: rest, false⟩

theorem Spares.not_stored {session : σ} {scene : Scene σ} (h : scene.Spares session)
    (hvisit : ∀ errand state rest, scene.visit ≠ some ⟨errand, .write state :: rest, false⟩) :
    scene.coordinator.state.session ≠ some session := by
  intro hstored
  obtain ⟨errand, state, rest, hinside⟩ := h.stored hstored
  exact hvisit errand state rest hinside

theorem spares_of_not_stored {session : σ} {scene : Scene σ}
    (hstored : scene.coordinator.state.session ≠ some session)
    (hpending : ∀ action ∈ scene.pending, action.Spares session) : scene.Spares session :=
  ⟨hpending, fun h => absurd h hstored⟩

theorem Spares.step {session : σ} {scene : Scene σ} (hsound : scene.IsSound)
    (h : scene.Spares session) {turn : Turn σ}
    (hturn : .operate (.attach session) .none ∉ turn.entering scene) :
    (turn.step scene).1.Spares session := by
  have hcomes := hsound.comes turn
  generalize turn.step scene = next at hcomes
  cases hcomes with
  | refused hvisit =>
    obtain ⟨hpending, hstored⟩ := h
    rw [pending_of_visit hvisit] at hpending
    exact ⟨hpending, fun hs => hvisit ▸ hstored hs⟩
  | waits hvisit herrand => exact h
  | @enters errand hvisit =>
    have hstored : scene.coordinator.state.session ≠ some session :=
      h.not_stored (by simp [hvisit])
    refine ⟨?_, fun hs => absurd hs hstored⟩
    cases errand with
    | look => exact fun action hmem => absurd hmem List.not_mem_nil
    | operate op =>
      rw [Turn.entering_operate hvisit, List.mem_singleton] at hturn
      exact spares_script _ hstored fun heq => hturn (heq ▸ rfl)
  | @acts errand action rest calling hvisit =>
    have hpending := h.pending
    rw [pending_of_visit hvisit, List.forall_mem_cons] at hpending
    refine spares_of_not_stored ?_ hpending.2
    change (perform .none [action] scene.coordinator).coordinator.state.session ≠ some session
    rw [state_perform_one]
    cases action with
    | write state => exact hpending.1
    | note note => exact h.not_stored (by simp [hvisit])
    | call call => exact h.not_stored (by simp [hvisit])
    | emit event => exact h.not_stored (by simp [hvisit])
  | leaves hvisit =>
    exact spares_of_not_stored (h.not_stored (by simp [hvisit])) (by simp [Scene.pending])
  | panics hvisit =>
    -- a call panics, so the new session is in place
    exact spares_of_not_stored (h.not_stored (by simp [hvisit])) (by simp [Scene.pending])
  | passes hturn channel => exact ⟨h.pending, h.stored⟩

theorem Spares.isSilentTo {session : σ} {scene : Scene σ} (hsound : scene.IsSound)
    (h : scene.Spares session) : scene.IsSilentTo session := by
  intro later hentered command
  induction later generalizing scene with
  | nil => exact List.not_mem_nil
  | cons turn rest ih =>
    rw [entered, List.mem_append, not_or] at hentered
    obtain ⟨hturn, hrest⟩ := hentered
    rw [traceOf, callsIn_append, List.mem_append, not_or]
    refine ⟨?_, ih (hsound.step turn) (h.step hsound hturn) hrest⟩
    intro hmem
    obtain ⟨errand, back, calling, hvisit⟩ := hsound.action_of_command hmem
    have hpending := h.pending
    rw [pending_of_visit hvisit, List.forall_mem_cons] at hpending
    exact hpending.1 rfl

/-- As long as no other operation enters, the calls are those that the one inside has to make. -/
theorem IsSound.callsIn_traceOf_isPrefix {scene : Scene σ} (h : scene.IsSound)
    {turns : List (Turn σ)} (halone : entered turns scene = []) :
    callsIn (traceOf turns scene) <+: callsOf scene.pending := by
  induction turns generalizing scene with
  | nil => exact List.nil_prefix
  | cons turn rest ih =>
    rw [entered, List.append_eq_nil_iff] at halone
    obtain ⟨hturn, hrest⟩ := halone
    have hlater := ih (h.step turn) hrest
    rw [traceOf, callsIn_append]
    by_cases hpanic : turn = .panic
    · subst hpanic
      have hcomes := h.comes .panic
      generalize Turn.panic.step scene = next at hcomes hlater
      cases hcomes with
      | panics hvisit =>
        rw [pending_of_none (by rfl), callsOf_nil, List.prefix_nil] at hlater
        rw [hlater]
        exact List.nil_prefix
      | passes hno channel => exact hlater
    · have hbalance := (h.promised_step hpanic).2
      rw [hturn, callsThrough, List.append_nil] at hbalance
      rw [← hbalance]
      exact List.prefix_append_right_inj _ |>.mpr hlater

/-- An attachment that enters lets go of everyone else. -/
theorem IsSound.spares_of_attach_entering {scene : Scene σ} (h : scene.IsSound)
    (hvisit : scene.visit = none) {session new : σ} (hnew : session ≠ new) :
    ((Turn.arrive (.operate (.attach new))).step scene).1.Spares session := by
  rw [h.step_arrive_of_none hvisit]
  exact ⟨spares_onAttach hnew scene.coordinator.state, fun _ => ⟨_, _, _, rfl⟩⟩

theorem IsLoyal.spares_of_detach_leaving {scene : Scene σ} (h : scene.IsLoyal)
    (herrand : scene.visit.map Visit.errand = some (.operate .detach)) (hdone : scene.pending = [])
    (session : σ) : (Turn.proceed.step scene).1.Spares session := by
  obtain ⟨⟨errand, rest, calling⟩, hvisit, rfl⟩ := Option.map_eq_some_iff.mp herrand
  obtain rfl : rest = [] := (pending_of_visit hvisit).symm.trans hdone
  have hreleased : scene.coordinator.state = .initial := (h _ hvisit).detaching rfl
  have hstep : Turn.proceed.step scene =
      (⟨{ scene.coordinator with lock := .free }, none⟩, []) := by
    simp [Turn.step, proceed, hvisit]
  rw [hstep]
  apply spares_of_not_stored
  · simp [hreleased, State.initial]
  · simp [Scene.pending]

end Scene

/-- A session that is let go is told nothing but its new status, and then the user hears of it. -/
theorem reports_down_isPrefix (session : Option σ) (before : SessionStatus) :
    reports session before .down (some .disconnected) <+:
      (session.map fun s => .command s (.setStatus .down)).toList ++ [.notify .disconnected] := by
  unfold reports
  split
  · exact List.nil_prefix
  · exact List.prefix_rfl

/-- In every interleaving, whichever calls panic: each command goes to the session that is stored at
that moment, and during an attachment to the new one. From the moment an attachment enters, no other
session gets a command before its own attachment enters, and so for all sessions once a detachment
has left by itself. A detachment tells the session that it is down, if anything, and then the user.
Every run of moves is such an interleaving. -/
theorem only_attached_session_is_driven {settings : Settings} {start : Coordinator σ}
    (hstart : Coordinator.new settings = .ok start) (turns : List (Turn σ)) :
    let scene := sceneAfter turns ⟨start, none⟩
    (∀ (turn : Turn σ) session command, .command session command ∈ callsIn (turn.step scene).2 →
        scene.coordinator.state.session = some session ∧
          ∀ new, scene.visit.map Visit.errand = some (.operate (.attach new)) → session = new) ∧
      (∀ new, scene.visit = none → ∀ session, session ≠ new →
        ((Turn.arrive (.operate (.attach new))).step scene).1.IsSilentTo session) ∧
      (scene.visit.map Visit.errand = some (.operate .detach) → scene.pending = [] →
        ∀ session, (Turn.proceed.step scene).1.IsSilentTo session) ∧
      (scene.visit = none → ∀ later,
        let next := ((Turn.arrive (.operate .detach)).step scene).1
        entered later next = [] → callsIn (traceOf later next) <+:
          (scene.coordinator.state.session.map fun s => .command s (.setStatus .down)).toList ++
            [.notify .disconnected]) := by
  intro scene
  have hinitial : (⟨start, none⟩ : Scene σ).IsSound :=
    Scene.isSound_initial (lock_after_new hstart [])
  have hsound : scene.IsSound := Scene.isSound_sceneAfter hinitial turns
  have hloyal : scene.IsLoyal := (Scene.isLoyal_of_none rfl).sceneAfter hinitial turns
  refine ⟨?_, ?_, ?_, ?_⟩
  · intro turn session command hmem
    obtain ⟨errand, rest, calling, hvisit⟩ := hsound.action_of_command hmem
    have hfits := hloyal _ hvisit
    refine ⟨hfits.faithful.1 session command rfl, ?_⟩
    intro new hnew
    rw [hvisit] at hnew
    have hkeeps := hfits.attaching new (Option.some.inj hnew) _ List.mem_cons_self
    exact (Option.some.inj hkeeps).symm
  · intro new hvisit session hsession
    exact (hsound.spares_of_attach_entering hvisit hsession).isSilentTo (hsound.step _)
  · intro herrand hdone session
    exact (hloyal.spares_of_detach_leaving herrand hdone session).isSilentTo (hsound.step _)
  · intro hvisit later next halone
    have hcalls := (hsound.step (.arrive (.operate .detach))).callsIn_traceOf_isPrefix halone
    have hpending : next.pending =
        script scene.coordinator.policy scene.coordinator.state .detach :=
      congrArg (fun entering => entering.1.pending) (hsound.step_arrive_of_none hvisit _)
    rw [hpending, callsOf_script] at hcalls
    exact hcalls.trans (reports_down_isPrefix _ _)

/-- A session is replaced after a panic, and the one that takes its place is detached, with changes
during the calls. -/
theorem replaced_and_detached_sessions_are_let_go :
    let start : Coordinator String := ⟨.skip, .new 4, .initial, .free⟩
    let wifi : Change := ⟨⟨"wifi"⟩, ["1.1.1.1"]⟩
    let first : List (Turn String) :=
      .arrive (.operate (.attach "a")) ::
        (List.replicate 8 .proceed ++ [.ofChange wifi, .proceed, .proceed, .panic])
    let second : List (Turn String) :=
      .arrive (.operate (.attach "b")) :: List.replicate 8 .proceed
    let release : List (Turn String) :=
      List.replicate 2 .proceed ++ .ofChange wifi :: List.replicate 6 .proceed
    let attached := sceneAfter first ⟨start, none⟩
    let replaced := sceneAfter (first ++ second) ⟨start, none⟩
    let detaching := ((Turn.arrive (.operate .detach)).step replaced).1
    let detached :=
      sceneAfter (first ++ second ++ .arrive (.operate .detach) :: release) ⟨start, none⟩
    Coordinator.new ⟨.skip, 4⟩ = .ok start ∧ attached.coordinator.state = ⟨.up, some "a", none⟩ ∧
      ((Turn.arrive (.operate (.attach "b"))).step attached).1.IsSilentTo "a" ∧
      replaced.coordinator.state = ⟨.connecting, some "b", none⟩ ∧
      (callsIn (traceOf release detaching)).length = 2 ∧
      callsIn (traceOf release detaching) <+:
        [.command "b" (.setStatus .down), .notify .disconnected] ∧
      ∀ session, (Turn.proceed.step detached).1.IsSilentTo session := by
  intro start wifi first second release attached replaced detaching detached
  have hstart : Coordinator.new ⟨.skip, 4⟩ = .ok start := rfl
  have hattached : attached.visit = none := Option.isNone_iff_eq_none.mp (by decide +kernel)
  have hreplaced : replaced.visit = none := Option.isNone_iff_eq_none.mp (by decide +kernel)
  have halone : entered release detaching = [] := List.isEmpty_iff.mp (by decide +kernel)
  have hstate : replaced.coordinator.state = ⟨.connecting, some "b", none⟩ := by decide +kernel
  obtain ⟨-, hreplacing, -, -⟩ := only_attached_session_is_driven hstart first
  obtain ⟨-, -, -, hdetaching⟩ := only_attached_session_is_driven hstart (first ++ second)
  obtain ⟨-, -, hdetached, -⟩ := only_attached_session_is_driven hstart
    (first ++ second ++ .arrive (.operate .detach) :: release)
  have hcalls := hdetaching hreplaced release halone
  rw [show sceneAfter (first ++ second) ⟨start, none⟩ = replaced from rfl, hstate] at hcalls
  refine ⟨hstart, ?_, hreplacing "b" hattached "a" (by decide), hstate, ?_, hcalls, ?_⟩
  · decide +kernel
  · decide +kernel
  · exact hdetached (by decide +kernel) (by decide +kernel)

end PathKeeper.Coordinator
