import PathKeeper.Proofs.Coordinator.Contention

/-!
# Linearization

In any interleaving without a panic, state and calls are those of the operations that came to enter,
one after another with nothing in between. An operation counts from the moment it enters: what it
will do is decided then.
-/

namespace PathKeeper.Coordinator

set_option autoImplicit false

variable {σ : Type}

/-! ## What is due -/

def Turn.entering (scene : Scene σ) : Turn σ → List (Move σ)
  | .arrive (.operate op) => if scene.visit.isNone then [.operate op .none] else []
  | _ => []

/-- The operations that enter, one after another, as moves with nothing in between. -/
def entered : List (Turn σ) → Scene σ → List (Move σ)
  | [], _ => []
  | turn :: rest, scene => turn.entering scene ++ entered rest (turn.step scene).1

/-- The state when the thread inside has left. -/
def Scene.promised (scene : Scene σ) : State σ := settled scene.coordinator.state scene.pending

theorem Turn.entering_of_visit {scene : Scene σ} {visit : Visit σ} (h : scene.visit = some visit)
    (turn : Turn σ) : turn.entering scene = [] := by
  unfold entering
  split
  · simp [h]
  · rfl

theorem Turn.entering_operate {scene : Scene σ} (h : scene.visit = none) (op : Operation σ) :
    (Turn.arrive (.operate op)).entering scene = [.operate op .none] := by
  simp [entering, h]

theorem Turn.entering_of_ne {turn : Turn σ} (h : ∀ errand, turn ≠ .arrive errand)
    (scene : Scene σ) : turn.entering scene = [] := by
  unfold entering
  split
  · next op => exact absurd rfl (h (.operate op))
  · rfl

theorem Scene.IsSound.policy_step {scene : Scene σ} (h : scene.IsSound) (turn : Turn σ) :
    (turn.step scene).1.coordinator.policy = scene.coordinator.policy := by
  have hcomes := h.comes turn
  generalize turn.step scene = next at hcomes
  cases hcomes with
  | refused hvisit => rfl
  | waits hvisit herrand => rfl
  | enters hvisit => rfl
  | acts hvisit => exact policy_perform _ _ _
  | leaves hvisit => rfl
  | panics hvisit => rfl
  | passes hturn channel => rfl

theorem Scene.IsSound.policy_sceneAfter {scene : Scene σ} (h : scene.IsSound)
    (turns : List (Turn σ)) :
    (sceneAfter turns scene).coordinator.policy = scene.coordinator.policy := by
  induction turns generalizing scene with
  | nil => rfl
  | cons turn rest ih => exact (ih (h.step turn)).trans (h.policy_step turn)

/-- An operation is due as soon as it enters, and nothing else changes what is due. -/
theorem Scene.IsSound.promised_step {scene : Scene σ} (h : scene.IsSound) {turn : Turn σ}
    (hcalm : turn ≠ .panic) :
    (turn.step scene).1.promised =
        stateAfter scene.coordinator.policy scene.promised (turn.entering scene) ∧
      callsIn (turn.step scene).2 ++ callsOf (turn.step scene).1.pending =
        callsOf scene.pending ++
          callsThrough scene.coordinator.policy scene.promised (turn.entering scene) := by
  have hcomes := h.comes turn
  generalize turn.step scene = next at hcomes
  cases hcomes with
  | refused hvisit =>
    rw [Turn.entering_of_visit hvisit, promised, promised, pending_of_visit hvisit, callsIn_refuse]
    exact ⟨rfl, (List.append_nil _).symm⟩
  | waits hvisit herrand =>
    rw [Turn.entering_of_visit hvisit]
    exact ⟨rfl, (List.append_nil _).symm⟩
  | @enters errand hvisit =>
    rw [promised, promised, pending_of_none hvisit, callsIn_recovery]
    cases errand with
    | look => exact ⟨rfl, rfl⟩
    | operate op =>
      rw [Turn.entering_operate hvisit]
      constructor
      · exact settled_script _ _ op
      · exact (callsOf_script _ _ op).trans (List.append_nil _).symm
  | @acts errand action rest calling hvisit =>
    -- an action passes from what is pending to what has happened
    rw [Turn.entering_of_ne (by simp), promised, promised, pending_of_visit hvisit,
      state_perform_one, callsIn_perform_one]
    exact ⟨rfl, (callsOf_cons action rest).symm.trans (List.append_nil _).symm⟩
  | leaves hvisit =>
    rw [Turn.entering_of_visit hvisit, promised, promised, pending_of_visit hvisit]
    exact ⟨rfl, rfl⟩
  | panics hvisit => exact absurd rfl hcalm
  | passes hturn channel =>
    rw [Turn.entering_of_ne hturn]
    exact ⟨rfl, (List.append_nil _).symm⟩

/-- Suppose that at each turn what is told, with what is due then, is what was due before, with what
an operation brings that enters. Then so it is over all turns. -/
theorem Scene.IsSound.balance {β : Type} (told : List (Turn σ) → Scene σ → List β)
    (due : Scene σ → List β) (through : Policy → State σ → List (Move σ) → List β)
    (hnothing : ∀ scene, told [] scene = [])
    (hnobody : ∀ policy state, through policy state [] = [])
    (htold : ∀ turn rest scene,
      told (turn :: rest) scene = told [turn] scene ++ told rest (turn.step scene).1)
    (hthrough : ∀ policy state front back, through policy state (front ++ back) =
      through policy state front ++ through policy (stateAfter policy state front) back)
    (hstep : ∀ scene turn, Scene.IsSound scene → turn ≠ .panic →
      told [turn] scene ++ due (turn.step scene).1 =
        due scene ++ through scene.coordinator.policy scene.promised (turn.entering scene))
    {scene : Scene σ} (h : scene.IsSound) {turns : List (Turn σ)} (hcalm : .panic ∉ turns) :
    told turns scene ++ due (sceneAfter turns scene) =
      due scene ++ through scene.coordinator.policy scene.promised (entered turns scene) := by
  induction turns generalizing scene with
  | nil =>
    rw [hnothing, entered, hnobody]
    exact (List.append_nil _).symm
  | cons turn rest ih =>
    obtain ⟨hturn, hrest⟩ := not_or.mp fun hmem => hcalm (List.mem_cons.mpr hmem)
    have hone := hstep scene turn h (Ne.symm hturn)
    have hlater := ih (h.step turn) hrest
    rw [h.policy_step turn, (h.promised_step (Ne.symm hturn)).1] at hlater
    rw [sceneAfter_cons, htold, entered, hthrough, List.append_assoc, hlater, ← List.append_assoc,
      hone, List.append_assoc]

theorem Scene.IsSound.promised_sceneAfter {scene : Scene σ} (h : scene.IsSound)
    {turns : List (Turn σ)} (hcalm : .panic ∉ turns) :
    (sceneAfter turns scene).promised =
        stateAfter scene.coordinator.policy scene.promised (entered turns scene) ∧
      callsIn (traceOf turns scene) ++ callsOf (sceneAfter turns scene).pending =
        callsOf scene.pending ++
          callsThrough scene.coordinator.policy scene.promised (entered turns scene) := by
  constructor
  · induction turns generalizing scene with
    | nil => rfl
    | cons turn rest ih =>
      obtain ⟨hturn, hrest⟩ := not_or.mp fun hmem => hcalm (List.mem_cons.mpr hmem)
      have hlater := ih (h.step turn) hrest
      rw [h.policy_step turn, (h.promised_step (Ne.symm hturn)).1] at hlater
      rw [sceneAfter_cons, entered, stateAfter_append]
      exact hlater
  · exact Scene.IsSound.balance (fun turns scene => callsIn (traceOf turns scene))
      (fun scene => callsOf scene.pending) callsThrough (fun _ => rfl) (fun _ _ => rfl)
      (fun turn rest scene => by simp [traceOf]) callsThrough_append
      (fun scene turn hsound hturn => by simpa [traceOf] using (hsound.promised_step hturn).2)
      h hcalm

theorem isCalm_of_mem_entered {turns : List (Turn σ)} {scene : Scene σ} {move : Move σ}
    (h : move ∈ entered turns scene) : move.IsCalm := by
  induction turns generalizing scene with
  | nil => cases h
  | cons turn rest ih =>
    rcases List.mem_append.mp h with h | h
    · unfold Turn.entering at h
      split at h
      · split at h
        · rw [List.mem_singleton.mp h]
          exact Interference.isCalm_none
        · cases h
      · cases h
    · exact ih h

/-- When all threads have left, state and calls are those of the operations that entered, one after
another. -/
theorem interleaving_is_sequential {k : Coordinator σ} (h : k.lock ≠ .held)
    {turns : List (Turn σ)} (hcalm : .panic ∉ turns)
    (hleft : (sceneAfter turns ⟨k, none⟩).visit = none) :
    (sceneAfter turns ⟨k, none⟩).coordinator.state = (after (entered turns ⟨k, none⟩) k).state ∧
      callsIn (traceOf turns ⟨k, none⟩) = callsIn (history (entered turns ⟨k, none⟩) k) := by
  obtain ⟨hstate, hcalls⟩ := (Scene.isSound_initial h).promised_sceneAfter hcalm
  rw [Scene.promised, Scene.pending_of_none hleft] at hstate
  rw [Scene.pending_of_none hleft, callsOf_nil, List.append_nil] at hcalls
  have hmoves : ∀ move ∈ entered turns ⟨k, none⟩, move.IsCalm := fun _ => isCalm_of_mem_entered
  rw [state_after_of_isCalm h hmoves, callsIn_history_of_isCalm h hmoves]
  exact ⟨hstate, hcalls⟩

end PathKeeper.Coordinator
