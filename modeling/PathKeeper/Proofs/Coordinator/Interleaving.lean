import PathKeeper.Proofs.Coordinator.Run

/-!
# Interleavings

Threads take turns with a coordinator. One at a time is inside and goes from action to action; the
others find the lock held. A change is dropped then, and everything else waits. A run of moves, with
all that comes during their calls, is one such interleaving.
-/

namespace PathKeeper.Coordinator

set_option autoImplicit false

variable {σ : Type}

/-! ## Turns -/

inductive Errand (σ : Type) where
  | operate (op : Operation σ)
  /-- Looks at the state. -/
  | look
  deriving DecidableEq, Repr

namespace Errand

def script (policy : Policy) (state : State σ) : Errand σ → List (Action σ)
  | .operate op => Coordinator.script policy state op
  | .look => []

/-- What becomes of an errand while the lock is held. -/
def waiting (k : Coordinator σ) : Errand σ → Outcome σ
  | .operate op => k.operate .none op
  | .look => ⟨k, [], false⟩

end Errand

/-- A thread inside, with what is left to do. -/
structure Visit (σ : Type) where
  errand : Errand σ
  rest : List (Action σ)
  /-- Whether a session or the notifier is being called. -/
  calling : Bool

structure Scene (σ : Type) where
  coordinator : Coordinator σ
  visit : Option (Visit σ)

namespace Scene

def pending (scene : Scene σ) : List (Action σ) := scene.visit.elim [] Visit.rest

def arrive (errand : Errand σ) (scene : Scene σ) : Scene σ × List (Happening σ) :=
  let k := scene.coordinator
  match k.lock with
  | .held => (⟨(errand.waiting k).coordinator, scene.visit⟩, (errand.waiting k).trace)
  | _ => (⟨{ k with lock := .held }, some ⟨errand, errand.script k.policy k.state, false⟩⟩,
      k.recovery)

/-- The thread inside takes its next action, or leaves if there is none. -/
def proceed (scene : Scene σ) : Scene σ × List (Happening σ) :=
  match scene.visit with
  | none => (scene, [])
  | some ⟨_, [], _⟩ => (⟨{ scene.coordinator with lock := .free }, none⟩, [])
  | some ⟨errand, action :: rest, _⟩ =>
    let outcome := perform .none [action] scene.coordinator
    (⟨outcome.coordinator, some ⟨errand, rest, action.call?.isSome⟩⟩, outcome.trace)

/-- The call that the thread inside is making panics. -/
def panic (scene : Scene σ) : Scene σ × List (Happening σ) :=
  match scene.visit with
  | some ⟨_, _, true⟩ => (⟨{ scene.coordinator with lock := .poisoned }, none⟩, [])
  | _ => (scene, [])

end Scene

inductive Turn (σ : Type) where
  | arrive (errand : Errand σ)
  | proceed
  | panic
  | drain (count : Option Nat)
  | closeEvents
  deriving DecidableEq, Repr

namespace Turn

def step (scene : Scene σ) : Turn σ → Scene σ × List (Happening σ)
  | .arrive errand => scene.arrive errand
  | .proceed => scene.proceed
  | .panic => scene.panic
  | .drain count => (⟨(scene.coordinator.drain count).2, scene.visit⟩, [])
  | .closeEvents => (⟨scene.coordinator.closeEvents, scene.visit⟩, [])

def ofChange (change : Change) : Turn σ := .arrive (.operate (.change change))

end Turn

def sceneAfter (turns : List (Turn σ)) (scene : Scene σ) : Scene σ :=
  turns.foldl (fun scene turn => (turn.step scene).1) scene

def traceOf : List (Turn σ) → Scene σ → List (Happening σ)
  | [], _ => []
  | turn :: rest, scene => (turn.step scene).2 ++ traceOf rest (turn.step scene).1

@[simp] theorem sceneAfter_cons (turn : Turn σ) (rest : List (Turn σ)) (scene : Scene σ) :
    sceneAfter (turn :: rest) scene = sceneAfter rest (turn.step scene).1 := rfl

theorem sceneAfter_append (front back : List (Turn σ)) (scene : Scene σ) :
    sceneAfter (front ++ back) scene = sceneAfter back (sceneAfter front scene) :=
  List.foldl_append

theorem traceOf_append (front back : List (Turn σ)) (scene : Scene σ) :
    traceOf (front ++ back) scene =
      traceOf front scene ++ traceOf back (sceneAfter front scene) := by
  induction front generalizing scene with
  | nil => rfl
  | cons turn rest ih => rw [List.cons_append, traceOf, ih, traceOf, List.append_assoc]; rfl

/-! ## What a turn comes to -/

/-- The lock is held exactly while a thread is inside, and no operation tells of a refusal as its
own. -/
structure Scene.IsSound (scene : Scene σ) : Prop where
  held_iff : scene.coordinator.lock = .held ↔ scene.visit ≠ none
  no_refusal : scene.pending.any Action.isRefusal = false

inductive Comes (scene : Scene σ) : Turn σ → Scene σ × List (Happening σ) → Prop where
  | refused {change : Change} {visit : Visit σ} (hvisit : scene.visit = some visit) :
    Comes scene (.arrive (.operate (.change change)))
      (⟨(scene.coordinator.refuse change).coordinator, some visit⟩,
        (scene.coordinator.refuse change).trace)
  | waits {errand : Errand σ} {visit : Visit σ} (hvisit : scene.visit = some visit)
    (herrand : ∀ change, errand ≠ .operate (.change change)) :
    Comes scene (.arrive errand) (scene, [])
  | enters {errand : Errand σ} (hvisit : scene.visit = none) :
    Comes scene (.arrive errand)
      (⟨{ scene.coordinator with lock := .held },
        some ⟨errand, errand.script scene.coordinator.policy scene.coordinator.state, false⟩⟩,
        scene.coordinator.recovery)
  | acts {errand : Errand σ} {action : Action σ} {rest : List (Action σ)} {calling : Bool}
    (hvisit : scene.visit = some ⟨errand, action :: rest, calling⟩) :
    Comes scene .proceed
      (⟨(perform .none [action] scene.coordinator).coordinator,
        some ⟨errand, rest, action.call?.isSome⟩⟩,
        (perform .none [action] scene.coordinator).trace)
  | leaves {errand : Errand σ} {calling : Bool}
    (hvisit : scene.visit = some ⟨errand, [], calling⟩) :
    Comes scene .proceed (⟨{ scene.coordinator with lock := .free }, none⟩, [])
  | panics {errand : Errand σ} {rest : List (Action σ)}
    (hvisit : scene.visit = some ⟨errand, rest, true⟩) :
    Comes scene .panic (⟨{ scene.coordinator with lock := .poisoned }, none⟩, [])
  /-- Nothing happens but to the channel. -/
  | passes {turn : Turn σ} (hturn : ∀ errand, turn ≠ .arrive errand) (channel : Channel) :
    Comes scene turn (⟨{ scene.coordinator with channel := channel }, scene.visit⟩, [])

theorem Scene.arrive_of_not_held {k : Coordinator σ} (h : k.lock ≠ .held) (errand : Errand σ)
    (visit : Option (Visit σ)) :
    Scene.arrive errand ⟨k, visit⟩ =
      (⟨{ k with lock := .held }, some ⟨errand, errand.script k.policy k.state, false⟩⟩,
        k.recovery) := by
  cases hlock : k.lock with
  | held => exact absurd hlock h
  | free => simp [arrive, hlock]
  | poisoned => simp [arrive, hlock]

theorem Scene.IsSound.step_arrive_of_none {scene : Scene σ} (h : scene.IsSound)
    (hvisit : scene.visit = none) (errand : Errand σ) :
    (Turn.arrive errand).step scene =
      (⟨{ scene.coordinator with lock := .held },
        some ⟨errand, errand.script scene.coordinator.policy scene.coordinator.state, false⟩⟩,
        scene.coordinator.recovery) := by
  have hfree : scene.coordinator.lock ≠ .held := fun hheld => h.held_iff.mp hheld hvisit
  obtain ⟨k, visit⟩ := scene
  cases hvisit
  exact arrive_of_not_held hfree errand none

theorem Scene.IsSound.comes_arrive {scene : Scene σ} (h : scene.IsSound) (errand : Errand σ) :
    Comes scene (.arrive errand) (scene.arrive errand) := by
  obtain ⟨k, visit⟩ := scene
  cases visit with
  | none =>
    have henters : Scene.arrive errand ⟨k, none⟩ = _ := h.step_arrive_of_none rfl errand
    rw [henters]
    exact .enters rfl
  | some visit =>
    -- the lock is held: a change is refused, and anything else finds nothing to do yet
    have hheld : k.lock = .held := h.held_iff.mpr (by simp)
    have harrive : Scene.arrive errand ⟨k, some visit⟩ =
        (⟨(errand.waiting k).coordinator, some visit⟩, (errand.waiting k).trace) := by
      simp [arrive, hheld]
    rw [harrive]
    cases errand with
    | look => exact .waits rfl (by simp)
    | operate op =>
      by_cases hop : ∀ change, op ≠ .change change
      · rw [Errand.waiting, operate_of_held hheld .none hop]
        exact .waits rfl (by simpa using hop)
      · obtain ⟨change, rfl⟩ : ∃ change, op = .change change := by simpa using hop
        rw [Errand.waiting, operate_change_of_held hheld .none change]
        exact .refused rfl

theorem Scene.IsSound.comes {scene : Scene σ} (h : scene.IsSound) (turn : Turn σ) :
    Comes scene turn (turn.step scene) := by
  cases turn with
  | arrive errand => exact h.comes_arrive errand
  | proceed =>
    obtain ⟨k, visit⟩ := scene
    match visit with
    | none => exact .passes (by simp) k.channel
    | some ⟨errand, [], calling⟩ => exact .leaves rfl
    | some ⟨errand, action :: rest, calling⟩ => exact .acts rfl
  | panic =>
    obtain ⟨k, visit⟩ := scene
    match visit with
    | none => exact .passes (by simp) k.channel
    | some ⟨errand, rest, true⟩ => exact .panics rfl
    | some ⟨errand, rest, false⟩ => exact .passes (by simp) k.channel
  | drain count => exact .passes (by simp) _
  | closeEvents => exact .passes (by simp) _

/-! ## What is kept -/

theorem any_isRefusal_errand (policy : Policy) (state : State σ) (errand : Errand σ) :
    (errand.script policy state).any Action.isRefusal = false := by
  cases errand with
  | operate op => exact any_isRefusal_script policy state op
  | look => rfl

theorem Scene.pending_of_visit {scene : Scene σ} {visit : Visit σ} (h : scene.visit = some visit) :
    scene.pending = visit.rest := by
  rw [pending, h]
  rfl

theorem Scene.pending_of_none {scene : Scene σ} (h : scene.visit = none) : scene.pending = [] := by
  rw [pending, h]
  rfl

theorem Scene.isSound_initial {k : Coordinator σ} (h : k.lock ≠ .held) :
    (⟨k, none⟩ : Scene σ).IsSound where
  held_iff := by simpa using h
  no_refusal := rfl

/-- The lock is held as long as a thread is inside: no other enters before it has left. -/
theorem Scene.IsSound.step {scene : Scene σ} (h : scene.IsSound) (turn : Turn σ) :
    (turn.step scene).1.IsSound := by
  have hcomes := h.comes turn
  generalize turn.step scene = next at hcomes
  cases hcomes with
  | refused hvisit =>
    have hheld : scene.coordinator.lock = .held := h.held_iff.mpr (by simp [hvisit])
    have hrest := h.no_refusal
    rw [pending_of_visit hvisit] at hrest
    exact ⟨iff_of_true hheld (by simp), hrest⟩
  | waits hvisit herrand => exact h
  | enters hvisit => exact ⟨by simp, any_isRefusal_errand _ _ _⟩
  | acts hvisit =>
    have hheld : scene.coordinator.lock = .held := h.held_iff.mpr (by simp [hvisit])
    have hrest := h.no_refusal
    rw [pending_of_visit hvisit, List.any_cons, Bool.or_eq_false_iff] at hrest
    exact ⟨iff_of_true ((lock_perform _ _ _).trans hheld) (by simp), hrest.2⟩
  | leaves hvisit => exact isSound_initial (by simp)
  | panics hvisit => exact isSound_initial (by simp)
  | passes hturn channel => exact ⟨h.held_iff, h.no_refusal⟩

theorem Scene.isSound_sceneAfter {scene : Scene σ} (h : scene.IsSound) (turns : List (Turn σ)) :
    (sceneAfter turns scene).IsSound := by
  induction turns generalizing scene with
  | nil => exact h
  | cons turn rest ih => exact ih (h.step turn)

/-! ## Moves as interleavings -/

/-- The turns of a thread inside and of the changes that come during its calls. -/
def Interference.turns (i : Interference σ) : List (Action σ) → List (Turn σ)
  | [] => [.proceed]
  | .call call :: rest =>
    .proceed :: ((i.contending call).map Turn.ofChange ++
      if i.panics call then [.panic] else i.turns rest)
  | _ :: rest => .proceed :: i.turns rest

/-- What some turns make of a scene, and what is seen of them. -/
def Plays (turns : List (Turn σ)) (scene : Scene σ) (next : Scene σ)
    (trace : List (Happening σ)) : Prop :=
  sceneAfter turns scene = next ∧ traceOf turns scene = trace

theorem Plays.append {front back : List (Turn σ)} {scene middle last : Scene σ}
    {first second : List (Happening σ)} (hfront : Plays front scene middle first)
    (hback : Plays back middle last second) :
    Plays (front ++ back) scene last (first ++ second) := by
  obtain ⟨rfl, rfl⟩ := hfront
  obtain ⟨rfl, rfl⟩ := hback
  exact ⟨sceneAfter_append _ _ _, traceOf_append _ _ _⟩

theorem plays_one (turn : Turn σ) (scene : Scene σ) :
    Plays [turn] scene (turn.step scene).1 (turn.step scene).2 :=
  ⟨rfl, List.append_nil _⟩

theorem plays_changes {k : Coordinator σ} (h : k.lock = .held) (visit : Visit σ)
    (changes : List Change) :
    Plays (changes.map Turn.ofChange) ⟨k, some visit⟩
      ⟨(k.refuseAll changes).coordinator, some visit⟩ (k.refuseAll changes).trace := by
  induction changes generalizing k with
  | nil => exact ⟨rfl, rfl⟩
  | cons change rest ih =>
    have hstep : (Turn.ofChange change).step ⟨k, some visit⟩ =
        (⟨(k.refuse change).coordinator, some visit⟩, (k.refuse change).trace) := by
      simp [Turn.ofChange, Turn.step, Scene.arrive, h, Errand.waiting, operate_change_of_held h]
    have hone := plays_one (Turn.ofChange change) ⟨k, some visit⟩
    rw [hstep] at hone
    exact hone.append (ih (k := (k.refuse change).coordinator) h)

def Outcome.released (outcome : Outcome σ) : Coordinator σ :=
  { outcome.coordinator with lock := if outcome.panicked then .poisoned else .free }

theorem plays_perform {k : Coordinator σ} (h : k.lock = .held) (i : Interference σ)
    (errand : Errand σ) (actions : List (Action σ)) (calling : Bool) :
    Plays (i.turns actions) ⟨k, some ⟨errand, actions, calling⟩⟩
      ⟨(perform i actions k).released, none⟩ (perform i actions k).trace := by
  induction actions generalizing k calling with
  | nil => exact ⟨rfl, rfl⟩
  | cons action rest ih =>
    have hone := plays_one .proceed ⟨k, some ⟨errand, action :: rest, calling⟩⟩
    cases action with
    | note note => exact hone.append (ih h false)
    | write state => exact hone.append (ih (k := { k with state := state }) h false)
    | emit event =>
      have hevent : Plays [.proceed] ⟨k, some ⟨errand, .emit event :: rest, calling⟩⟩
          ⟨k.emit event, some ⟨errand, rest, false⟩⟩ (k.emission event) :=
        ⟨rfl, (List.append_nil _).trans (List.append_nil _)⟩
      exact hevent.append (ih (k := k.emit event) h false)
    | call call =>
      have hcrowd := plays_changes h ⟨errand, rest, true⟩ (i.contending call)
      cases hp : i.panics call with
      | true =>
        -- a panic comes after the changes that are delivered during the call
        have hpanic := plays_one .panic
          ⟨(k.refuseAll (i.contending call)).coordinator, some ⟨errand, rest, true⟩⟩
        have hall := hone.append (hcrowd.append hpanic)
        rw [perform_call_of_panics hp, Interference.turns, hp]
        rw [show (Turn.panic.step _).2 = [] from rfl, List.append_nil] at hall
        exact hall
      | false =>
        have hrest := ih (k := (k.refuseAll (i.contending call)).coordinator)
          ((lock_refuseAll _ k).trans h) true
        rw [perform_call_of_returns hp, Interference.turns, hp]
        exact hone.append (hcrowd.append hrest)

theorem plays_enter {k : Coordinator σ} (h : k.lock ≠ .held) (errand : Errand σ) :
    Plays [.arrive errand] ⟨k, none⟩
      ⟨{ k with lock := .held }, some ⟨errand, errand.script k.policy k.state, false⟩⟩
      k.recovery := by
  have hone := plays_one (.arrive errand) ⟨k, none⟩
  rwa [Turn.step, Scene.arrive_of_not_held h] at hone

def Move.turns (k : Coordinator σ) : Move σ → List (Turn σ)
  | .operate op i => .arrive (.operate op) :: i.turns (script k.policy k.state op)
  | .inspect => [.arrive .look, .proceed]
  | .drain count => [.drain count]
  | .closeEvents => [.closeEvents]

theorem Move.plays_turns {k : Coordinator σ} (h : k.lock ≠ .held) (move : Move σ) :
    Plays (move.turns k) ⟨k, none⟩ ⟨(move.outcome k).coordinator, none⟩ (move.outcome k).trace := by
  cases move with
  | operate op i =>
    have hinside := plays_perform (k := { k with lock := .held }) rfl i (.operate op)
      (script k.policy k.state op) false
    rw [Move.outcome, operate_of_not_held h]
    exact (plays_enter h (.operate op)).append hinside
  | inspect =>
    rw [Move.outcome, inspect_of_not_held h]
    have hleave : Plays [.proceed] ⟨{ k with lock := .held }, some ⟨.look, [], false⟩⟩
        ⟨{ k with lock := .free }, none⟩ [] := plays_one _ _
    have hall := (plays_enter h .look).append hleave
    rwa [List.append_nil] at hall
  | drain count => exact plays_one _ _
  | closeEvents => exact plays_one _ _

def turnsOf : List (Move σ) → Coordinator σ → List (Turn σ)
  | [], _ => []
  | move :: rest, k => move.turns k ++ turnsOf rest (move.outcome k).coordinator

theorem plays_turnsOf {k : Coordinator σ} (h : k.lock ≠ .held) (moves : List (Move σ)) :
    Plays (turnsOf moves k) ⟨k, none⟩ ⟨after moves k, none⟩ (history moves k) := by
  induction moves generalizing k with
  | nil => exact ⟨rfl, rfl⟩
  | cons move rest ih => exact (move.plays_turns h).append (ih (move.lock_outcome_ne_held h))

/-- Whatever comes between in a run of moves, it is an interleaving. -/
theorem run_is_interleaving {k : Coordinator σ} (h : k.lock ≠ .held) (moves : List (Move σ)) :
    ∃ turns, Plays turns ⟨k, none⟩ ⟨after moves k, none⟩ (history moves k) :=
  ⟨turnsOf moves k, plays_turnsOf h moves⟩

theorem Interference.IsCalm.panic_not_mem_turns {i : Interference σ} (h : i.IsCalm)
    (actions : List (Action σ)) : .panic ∉ i.turns actions := by
  induction actions with
  | nil => simp [Interference.turns]
  | cons action rest ih =>
    cases action with
    | note note => simpa [Interference.turns] using ih
    | write state => simpa [Interference.turns] using ih
    | emit event => simpa [Interference.turns] using ih
    | call call => simp [Interference.turns, Turn.ofChange, h call, ih]

theorem Move.panic_not_mem_turns {move : Move σ} (h : move.IsCalm) (k : Coordinator σ) :
    .panic ∉ move.turns k := by
  cases move with
  | operate op i => simpa [Move.turns] using Interference.IsCalm.panic_not_mem_turns h _
  | inspect => simp [Move.turns]
  | drain count => simp [Move.turns]
  | closeEvents => simp [Move.turns]

theorem panic_not_mem_turnsOf {moves : List (Move σ)} (hcalm : ∀ move ∈ moves, move.IsCalm)
    (k : Coordinator σ) : .panic ∉ turnsOf moves k := by
  induction moves generalizing k with
  | nil => simp [turnsOf]
  | cons move rest ih =>
    obtain ⟨hmove, hrest⟩ := List.forall_mem_cons.mp hcalm
    rw [turnsOf, List.mem_append, not_or]
    exact ⟨Move.panic_not_mem_turns hmove k, ih hrest _⟩

theorem calm_run_is_interleaving {k : Coordinator σ} (h : k.lock ≠ .held) {moves : List (Move σ)}
    (hcalm : ∀ move ∈ moves, move.IsCalm) :
    ∃ turns, .panic ∉ turns ∧ Plays turns ⟨k, none⟩ ⟨after moves k, none⟩ (history moves k) :=
  ⟨turnsOf moves k, panic_not_mem_turnsOf hcalm k, plays_turnsOf h moves⟩

end PathKeeper.Coordinator
