import PathKeeper.Proofs.Coordinator.Interleaving

/-!
# Contention

A change is dropped exactly if it tries the lock while a thread is inside. It makes no difference
what that thread came for: a change that meets nothing but an attachment is lost as well.
-/

namespace PathKeeper.Coordinator

set_option autoImplicit false

variable {σ : Type}

/-! ## Who is turned away -/

/-- A change that tries the lock while a thread is inside, and what that thread came for. -/
def Turn.turnedAway (scene : Scene σ) : Turn σ → List (Change × Errand σ)
  | .arrive (.operate (.change change)) =>
    scene.visit.toList.map fun visit => (change, visit.errand)
  | _ => []

def turnedAway : List (Turn σ) → Scene σ → List (Change × Errand σ)
  | [], _ => []
  | turn :: rest, scene => turn.turnedAway scene ++ turnedAway rest (turn.step scene).1

theorem Turn.turnedAway_of_none {scene : Scene σ} (h : scene.visit = none) (turn : Turn σ) :
    turn.turnedAway scene = [] := by
  unfold turnedAway
  split
  · rw [h, Option.toList_none, List.map_nil]
  · rfl

theorem Turn.turnedAway_of_ne {turn : Turn σ} (h : ∀ change, turn ≠ ofChange change)
    (scene : Scene σ) : turn.turnedAway scene = [] := by
  unfold turnedAway
  split
  · next change => exact absurd rfl (h change)
  · rfl

/-! ## What is told of it -/

theorem Scene.IsSound.droppedIn_step {scene : Scene σ} (h : scene.IsSound) (turn : Turn σ) :
    droppedIn (turn.step scene).2 =
      (turn.turnedAway scene).map fun (change, _) => change.identity := by
  have hcomes := h.comes turn
  generalize turn.step scene = next at hcomes
  cases hcomes with
  | refused hvisit =>
    simp only [droppedIn_refuse, Turn.turnedAway, hvisit]
    rfl
  | waits hvisit herrand =>
    rw [Turn.turnedAway_of_ne fun change heq => herrand change (Turn.arrive.inj heq)]
    rfl
  | enters hvisit =>
    rw [Turn.turnedAway_of_none hvisit]
    exact droppedIn_recovery scene.coordinator
  | acts hvisit =>
    -- the thread inside tells of other events only
    have hrest := h.no_refusal
    rw [pending_of_visit hvisit, List.any_cons, Bool.or_eq_false_iff] at hrest
    rw [Turn.turnedAway_of_ne (by simp [Turn.ofChange]),
      droppedIn_perform .none (by simp [hrest.1])]
    simp [Interference.none]
  | leaves hvisit => rfl
  | panics hvisit => rfl
  | passes hturn channel =>
    rw [Turn.turnedAway_of_ne fun change => hturn _]
    rfl

theorem Scene.IsSound.droppedIn_traceOf {scene : Scene σ} (h : scene.IsSound)
    (turns : List (Turn σ)) :
    droppedIn (traceOf turns scene) =
      (turnedAway turns scene).map fun (change, _) => change.identity := by
  induction turns generalizing scene with
  | nil => rfl
  | cons turn rest ih =>
    rw [traceOf, droppedIn_append, h.droppedIn_step, ih (h.step turn), turnedAway,
      List.map_append]

/-- A change that is turned away is gone: state, calls and the thread inside are as without it. -/
theorem Scene.IsSound.step_ofChange_of_visit {scene : Scene σ} (h : scene.IsSound)
    {visit : Visit σ} (hvisit : scene.visit = some visit) (change : Change) :
    ((Turn.ofChange change).step scene).1.coordinator.state = scene.coordinator.state ∧
      ((Turn.ofChange change).step scene).1.visit = some visit ∧
      callsIn ((Turn.ofChange change).step scene).2 = [] := by
  have hcomes := h.comes (Turn.ofChange change)
  rw [Turn.ofChange] at hcomes ⊢
  generalize (Turn.arrive (.operate (.change change))).step scene = next at hcomes
  cases hcomes with
  | refused hinside => exact ⟨rfl, hinside.symm.trans hvisit, callsIn_refuse change _⟩
  | waits hinside herrand => exact absurd rfl (herrand change)
  | enters hnone => cases hnone.symm.trans hvisit
  | passes hturn channel => exact absurd rfl (hturn _)

theorem Scene.IsSound.step_ofChange_of_none {scene : Scene σ} (h : scene.IsSound)
    (hvisit : scene.visit = none) (change : Change) :
    ((Turn.ofChange change).step scene).1.visit.map Visit.errand =
      some (.operate (.change change)) := by
  rw [Turn.ofChange, h.step_arrive_of_none hvisit]
  rfl

section Start

variable {settings : Settings} {start : Coordinator σ}

/-- In every interleaving the changes that are told to be dropped are those that try the lock while
a thread is inside. With nobody inside a change enters; with anyone inside, whatever for, it is
dropped and leaves state and calls alone. So a change right behind any errand is lost. Every run of
moves, with what comes during their calls, is such an interleaving. -/
theorem changes_are_dropped_whoever_is_inside (hstart : Coordinator.new settings = .ok start) :
    (∀ turns, droppedIn (traceOf turns ⟨start, none⟩) =
        (turnedAway turns ⟨start, none⟩).map fun (change, _) => change.identity) ∧
      (∀ turns change,
        let scene := sceneAfter turns ⟨start, none⟩
        let tried := (Turn.ofChange change).step scene
        (scene.visit = none → droppedIn tried.2 = [] ∧
          tried.1.visit.map Visit.errand = some (.operate (.change change))) ∧
        ∀ visit, scene.visit = some visit → droppedIn tried.2 = [change.identity] ∧
          tried.1.coordinator.state = scene.coordinator.state ∧ tried.1.visit = some visit ∧
          callsIn tried.2 = []) ∧
      (∀ (errand : Errand σ) change,
        droppedIn (traceOf [.arrive errand, .ofChange change] ⟨start, none⟩) =
          [change.identity]) ∧
      ∀ moves, ∃ turns,
        Plays turns ⟨start, none⟩ ⟨after moves start, none⟩ (history moves start) := by
  have hfree : start.lock ≠ .held := lock_after_new hstart []
  have hsound : (⟨start, none⟩ : Scene σ).IsSound := Scene.isSound_initial hfree
  refine ⟨fun turns => hsound.droppedIn_traceOf turns, ?_, ?_, ?_⟩
  · intro turns change scene tried
    have hscene : scene.IsSound := Scene.isSound_sceneAfter hsound turns
    have htold : droppedIn tried.2 = scene.visit.toList.map fun _ => change.identity := by
      rw [hscene.droppedIn_step, Turn.ofChange, Turn.turnedAway, List.map_map]
      rfl
    constructor
    · intro hnone
      rw [htold, hnone]
      exact ⟨rfl, hscene.step_ofChange_of_none hnone change⟩
    · intro visit hvisit
      rw [htold, hvisit]
      exact ⟨rfl, hscene.step_ofChange_of_visit hvisit change⟩
  · intro errand change
    have henters : (Turn.arrive errand).step ⟨start, none⟩ = _ :=
      Scene.arrive_of_not_held hfree errand none
    rw [hsound.droppedIn_traceOf, turnedAway, turnedAway, henters, Turn.turnedAway_of_none rfl]
    rfl
  · intro moves
    exact run_is_interleaving hfree moves

end Start

/-- A change meets someone who looks at the state, and another one meets a change. -/
theorem changes_are_dropped_for_a_look_and_for_a_change :
    let start : Coordinator String := ⟨.skip, .new 4, .initial, .free⟩
    let wifi : Change := ⟨⟨"wifi"⟩, ["1.1.1.1"]⟩
    let cell : Change := ⟨⟨"cell"⟩, ["8.8.8.8"]⟩
    let turns : List (Turn String) :=
      [.arrive .look, .ofChange wifi, .proceed, .ofChange wifi, .ofChange cell]
    Coordinator.new ⟨.skip, 4⟩ = .ok start ∧
      droppedIn (traceOf turns ⟨start, none⟩) = [⟨"wifi"⟩, ⟨"cell"⟩] ∧
      turnedAway turns ⟨start, none⟩ = [(wifi, .look), (cell, .operate (.change wifi))] := by
  intro start wifi cell turns
  have hstart : Coordinator.new ⟨.skip, 4⟩ = .ok start := rfl
  have hturned : turnedAway turns ⟨start, none⟩ =
      [(wifi, .look), (cell, .operate (.change wifi))] := by decide +kernel
  have hdropped := (changes_are_dropped_whoever_is_inside hstart).1 turns
  rw [hturned] at hdropped
  exact ⟨hstart, hdropped, hturned⟩

/-- A change comes while a session is being attached, with no other change under way. It is dropped,
and the session goes on connecting. -/
theorem change_is_dropped_for_an_attachment :
    let start : Coordinator String := ⟨.skip, .new 4, .initial, .free⟩
    let wifi : Change := ⟨⟨"wifi"⟩, ["1.1.1.1"]⟩
    let crowd : Interference String := ⟨fun _ => [wifi], fun _ => false⟩
    let turns : List (Turn String) :=
      .arrive (.operate (.attach "s")) ::
        (List.replicate 3 .proceed ++ .ofChange wifi :: List.replicate 5 .proceed)
    Coordinator.new ⟨.skip, 4⟩ = .ok start ∧
      turnedAway turns ⟨start, none⟩ = [(wifi, .operate (.attach "s"))] ∧
      droppedIn (traceOf turns ⟨start, none⟩) = [⟨"wifi"⟩] ∧
      (sceneAfter turns ⟨start, none⟩).visit.isNone = true ∧
      (sceneAfter turns ⟨start, none⟩).coordinator.state = ⟨.connecting, some "s", none⟩ ∧
      droppedIn (start.operate crowd (.attach "s")).trace = [⟨"wifi"⟩] := by
  intro start wifi crowd turns
  refine ⟨rfl, ?_, ?_, ?_, ?_, ?_⟩
  · decide +kernel
  · decide +kernel
  · decide +kernel
  · decide +kernel
  · decide +kernel

end PathKeeper.Coordinator
