import PathKeeper.Proofs.Coordinator.Contention

/-!
# Poisoning

A panic leaves the lock poisoned, and whoever enters next takes the state over with a note in the
log. That note is all that comes of it: otherwise a run is the same as with a lock that is mended at
once. There is one note for each panic, written by the first thread that enters behind it.
-/

namespace PathKeeper.Coordinator

set_option autoImplicit false

variable {σ : Type}

/-! ## Notes of a recovery -/

namespace Happening

def isRecovery : Happening σ → Bool
  | .noted .recovered => true
  | _ => false

end Happening

def recoveriesIn (trace : List (Happening σ)) : Nat := trace.countP Happening.isRecovery

/-- What is seen apart from the notes that a state was taken over. -/
def apartFromRecoveries (trace : List (Happening σ)) : List (Happening σ) :=
  trace.filter fun happening => !happening.isRecovery

theorem recoveriesIn_append (front back : List (Happening σ)) :
    recoveriesIn (front ++ back) = recoveriesIn front + recoveriesIn back := List.countP_append

theorem apartFromRecoveries_append (front back : List (Happening σ)) :
    apartFromRecoveries (front ++ back) =
      apartFromRecoveries front ++ apartFromRecoveries back := List.filter_append front back

theorem apartFromRecoveries_eq_self {trace : List (Happening σ)} (h : recoveriesIn trace = 0) :
    apartFromRecoveries trace = trace := by
  apply List.filter_eq_self.mpr
  intro happening hmem
  have hnone := List.countP_eq_zero.mp h happening hmem
  rw [Bool.not_eq_true] at hnone
  rw [hnone, Bool.not_false]

theorem recoveriesIn_emission (event : Event) (k : Coordinator σ) :
    recoveriesIn (k.emission event) = 0 := by
  unfold emission
  split <;> rfl

theorem recoveriesIn_refuse (change : Change) (k : Coordinator σ) :
    recoveriesIn (k.refuse change).trace = 0 :=
  recoveriesIn_emission (.changeDropped change.identity) k

theorem recoveriesIn_recovery (k : Coordinator σ) :
    recoveriesIn k.recovery = if k.lock = .poisoned then 1 else 0 := by
  unfold recovery
  split <;> rfl

theorem recoveriesIn_perform_one {action : Action σ} (h : action ≠ .note .recovered)
    (k : Coordinator σ) : recoveriesIn (perform .none [action] k).trace = 0 := by
  cases action with
  | note note =>
    cases note with
    | recovered => exact absurd rfl h
    | _ => rfl
  | write state => rfl
  | call call => rfl
  | emit event =>
    have htrace : (perform .none [.emit event] k).trace = k.emission event := List.append_nil _
    rw [htrace]
    exact recoveriesIn_emission event k

/-! ## Operations do not note a recovery of their own -/

theorem not_mem_transition (state : State σ) (status : SessionStatus)
    (event : Option StatusEvent) : .note .recovered ∉ transition state status event := by
  unfold transition
  split
  · exact List.not_mem_nil
  · cases state.session <;> cases event <;> simp [tell, announce]

theorem not_mem_commit (state : State σ) (session : σ) (snapshot : Snapshot) :
    .note .recovered ∉ commit state session snapshot := by
  have htransition := not_mem_transition state .up (some .connected)
  have hservers : .note .recovered ∉ updateServers session state.last snapshot := by
    unfold updateServers
    split <;> simp
  have hreconnect : .note .recovered ∉ reconnectIfMoved session state.last snapshot := by
    unfold reconnectIfMoved
    split <;> simp
  have hremark : (.note .recovered : Action σ) ∉ remarkSame state.last snapshot := by
    unfold remarkSame
    split <;> simp
  simp [commit, htransition, hservers, hreconnect, hremark]

theorem not_mem_script (policy : Policy) (state : State σ) (op : Operation σ) :
    .note .recovered ∉ script policy state op := by
  cases op with
  | change change =>
    simp only [script, onChange]
    split
    · simp
    · split
      · simp
      · simp [not_mem_commit]
  | attach session => simp [script, onAttach, not_mem_transition]
  | detach =>
    simp only [script, onDetach]
    split <;> simp [not_mem_transition]
  | loseTransport =>
    simp only [script, onLoseTransport]
    split <;> simp [not_mem_transition]
  | fail reason =>
    simp only [script, onFail]
    split <;> simp [not_mem_transition]

/-- The thread inside has no recovery to note. -/
def Scene.IsQuiet (scene : Scene σ) : Prop := .note .recovered ∉ scene.pending

theorem Scene.isQuiet_of_none {scene : Scene σ} (h : scene.visit = none) : scene.IsQuiet := by
  rw [IsQuiet, pending_of_none h]
  exact List.not_mem_nil

theorem Scene.IsSound.isQuiet_step {scene : Scene σ} (h : scene.IsSound) (hquiet : scene.IsQuiet)
    (turn : Turn σ) : (turn.step scene).1.IsQuiet := by
  have hcomes := h.comes turn
  generalize turn.step scene = next at hcomes
  cases hcomes with
  | refused hvisit =>
    rw [IsQuiet, pending_of_visit hvisit] at hquiet
    exact hquiet
  | waits hvisit herrand => exact hquiet
  | @enters errand hvisit =>
    cases errand with
    | operate op => exact not_mem_script _ _ op
    | look => exact List.not_mem_nil
  | acts hvisit =>
    rw [IsQuiet, pending_of_visit hvisit] at hquiet
    exact fun hmem => hquiet (List.mem_cons_of_mem _ hmem)
  | leaves hvisit => exact isQuiet_of_none rfl
  | panics hvisit => exact isQuiet_of_none rfl
  | passes hturn channel => exact hquiet

theorem Scene.IsSound.isQuiet_sceneAfter {scene : Scene σ} (h : scene.IsSound)
    (hquiet : scene.IsQuiet) (turns : List (Turn σ)) : (sceneAfter turns scene).IsQuiet := by
  induction turns generalizing scene with
  | nil => exact hquiet
  | cons turn rest ih => exact ih (h.step turn) (h.isQuiet_step hquiet turn)

/-! ## A lock that is mended -/

/-- The same coordinator with its lock as if there had been no panic. -/
def mended (k : Coordinator σ) : Coordinator σ :=
  { k with lock := if k.lock = .poisoned then .free else k.lock }

def Scene.mended (scene : Scene σ) : Scene σ := ⟨scene.coordinator.mended, scene.visit⟩

theorem mended_of_ne {k : Coordinator σ} (h : k.lock ≠ .poisoned) : k.mended = k := by
  rw [mended, if_neg h]

theorem Scene.mended_of_ne {scene : Scene σ} (h : scene.coordinator.lock ≠ .poisoned) :
    scene.mended = scene := by
  rw [mended, Coordinator.mended_of_ne h]

/-- After turns behind each of which the lock is mended. -/
def mendedAfter (turns : List (Turn σ)) (scene : Scene σ) : Scene σ :=
  turns.foldl (fun scene turn => (turn.step scene).1.mended) scene

/-- What is seen in turns behind each of which the lock is mended. -/
def mendedTrace : List (Turn σ) → Scene σ → List (Happening σ)
  | [], _ => []
  | turn :: rest, scene => (turn.step scene).2 ++ mendedTrace rest (turn.step scene).1.mended

def Turn.isArrival : Turn σ → Bool
  | .arrive _ => true
  | _ => false

/-- Whoever arrives at a lock that is poisoned enters, and all that is seen is that the state is
taken over. Any other turn finds nobody inside and leaves the lock poisoned. -/
theorem Scene.IsSound.step_of_poisoned {scene : Scene σ} (h : scene.IsSound)
    (hlock : scene.coordinator.lock = .poisoned) (turn : Turn σ) :
    (turn.isArrival = true ∧ turn.step scene = ((turn.step scene).1, [.noted .recovered]) ∧
        turn.step scene.mended = ((turn.step scene).1, [])) ∨
      (turn.isArrival = false ∧ turn.step scene = ((turn.step scene).1, []) ∧
        turn.step scene.mended = ((turn.step scene).1.mended, []) ∧
        (turn.step scene).1.coordinator.lock = .poisoned) := by
  obtain ⟨k, visit⟩ := scene
  -- a thread inside would hold the lock
  have hfree : k.lock ≠ .held := fun hheld => by simp [hheld] at hlock
  have hnone : visit = none := by
    by_contra hvisit
    exact hfree (h.held_iff.mpr hvisit)
  subst hnone
  cases turn with
  | arrive errand =>
    have hmended : k.mended.lock = .free := if_pos hlock
    have hfree' : k.mended.lock ≠ .held := by simp [hmended]
    have hseen : k.recovery = [.noted .recovered] := if_pos hlock
    have hunseen : k.mended.recovery = [] := if_neg (by simp [hmended])
    refine .inl ⟨rfl, ?_, ?_⟩
    · rw [Turn.step, arrive_of_not_held hfree, hseen]
    · change arrive errand ⟨k.mended, none⟩ = ((arrive errand ⟨k, none⟩).1, [])
      rw [arrive_of_not_held hfree, arrive_of_not_held hfree', hunseen]
      rfl
  | proceed => exact .inr ⟨rfl, rfl, rfl, hlock⟩
  | panic => exact .inr ⟨rfl, rfl, rfl, hlock⟩
  | drain count => exact .inr ⟨rfl, rfl, rfl, hlock⟩
  | closeEvents => exact .inr ⟨rfl, rfl, rfl, hlock⟩

/-- Only who takes over a state notes it. -/
theorem Scene.IsSound.recoveriesIn_step {scene : Scene σ} (h : scene.IsSound)
    (hquiet : scene.IsQuiet) (hlock : scene.coordinator.lock ≠ .poisoned) (turn : Turn σ) :
    recoveriesIn (turn.step scene).2 = 0 := by
  have hcomes := h.comes turn
  generalize turn.step scene = next at hcomes
  cases hcomes with
  | refused hvisit => exact recoveriesIn_refuse _ _
  | waits hvisit herrand => rfl
  | enters hvisit =>
    rw [recoveriesIn_recovery, if_neg hlock]
  | acts hvisit =>
    rw [IsQuiet, pending_of_visit hvisit] at hquiet
    apply recoveriesIn_perform_one
    rintro rfl
    exact hquiet List.mem_cons_self
  | leaves hvisit => rfl
  | panics hvisit => rfl
  | passes hturn channel => rfl

/-- A turn does the same whether or not the lock is mended before. -/
theorem Scene.IsSound.step_mended {scene : Scene σ} (h : scene.IsSound) (hquiet : scene.IsQuiet)
    (turn : Turn σ) :
    (turn.step scene.mended).1.mended = (turn.step scene).1.mended ∧
      (turn.step scene.mended).2 = apartFromRecoveries (turn.step scene).2 := by
  -- with any other lock there is nothing to mend
  by_cases hlock : scene.coordinator.lock = .poisoned
  · rcases h.step_of_poisoned hlock turn with ⟨-, htrace, hmended⟩ | ⟨-, htrace, hmended, hstays⟩
    · rw [htrace, hmended]
      exact ⟨rfl, rfl⟩
    · have hfree : (turn.step scene).1.mended.coordinator.lock ≠ .poisoned := by
        change (if _ then _ else _) ≠ _
        rw [if_pos hstays]
        exact Lock.noConfusion
      rw [htrace, hmended]
      exact ⟨mended_of_ne hfree, rfl⟩
  · rw [mended_of_ne hlock]
    exact ⟨rfl, (apartFromRecoveries_eq_self (h.recoveriesIn_step hquiet hlock turn)).symm⟩

theorem Scene.IsSound.sceneAfter_mended {scene : Scene σ} (h : scene.IsSound)
    (hquiet : scene.IsQuiet) (turns : List (Turn σ)) :
    (sceneAfter turns scene).mended = mendedAfter turns scene.mended ∧
      apartFromRecoveries (traceOf turns scene) = mendedTrace turns scene.mended := by
  induction turns generalizing scene with
  | nil => exact ⟨rfl, rfl⟩
  | cons turn rest ih =>
    obtain ⟨hscene, htrace⟩ := h.step_mended hquiet turn
    obtain ⟨hlast, hlater⟩ := ih (h.step turn) (h.isQuiet_step hquiet turn)
    rw [← hscene] at hlast hlater
    constructor
    · exact hlast
    · rw [traceOf, apartFromRecoveries_append, hlater, ← htrace, mendedTrace]

/-- With a poisoned lock the same comes about as with a free one, behind a note that the state was
taken over as soon as someone arrives. -/
theorem Scene.IsSound.plays_of_poisoned {scene : Scene σ} (h : scene.IsSound)
    (hlock : scene.coordinator.lock = .poisoned) (turns : List (Turn σ)) :
    (traceOf turns scene =
        (if turns.any Turn.isArrival then [.noted .recovered] else []) ++
          traceOf turns scene.mended) ∧
      sceneAfter turns scene.mended =
        if turns.any Turn.isArrival then sceneAfter turns scene
        else (sceneAfter turns scene).mended := by
  induction turns generalizing scene with
  | nil => exact ⟨rfl, rfl⟩
  | cons turn rest ih =>
    rw [traceOf, traceOf, sceneAfter_cons, sceneAfter_cons, List.any_cons]
    rcases h.step_of_poisoned hlock turn with ⟨harrives, htrace, hmended⟩ |
      ⟨harrives, htrace, hmended, hstays⟩
    · rw [htrace, hmended, harrives, Bool.true_or, if_pos rfl, if_pos rfl]
      exact ⟨rfl, rfl⟩
    · obtain ⟨hseen, hlast⟩ := ih (h.step turn) hstays
      rw [htrace, hmended, harrives, Bool.false_or, List.nil_append, List.nil_append]
      exact ⟨hseen, hlast⟩

/-! ## Who passes the lock -/

inductive Passage where
  | entered | left | panicked
  deriving DecidableEq, Repr

/-- How the lock is behind a passage. -/
def Passage.lock : Passage → Lock
  | .entered => .held
  | .left => .free
  | .panicked => .poisoned

def Turn.passage? (scene : Scene σ) : Turn σ → Option Passage
  | .arrive _ => if scene.visit.isNone then some .entered else none
  | .proceed =>
    match scene.visit with
    | some ⟨_, [], _⟩ => some .left
    | _ => none
  | .panic =>
    match scene.visit with
    | some ⟨_, _, true⟩ => some .panicked
    | _ => none
  | _ => none

def passages : List (Turn σ) → Scene σ → List Passage
  | [], _ => []
  | turn :: rest, scene => (turn.passage? scene).toList ++ passages rest (turn.step scene).1

/-- What a turn that lets a thread pass, or none, shows of it. -/
inductive Scene.Passing (scene : Scene σ) (next : Scene σ × List (Happening σ)) :
    Option Passage → Prop where
  | entered (hvisit : scene.visit = none) (htrace : next.2 = scene.coordinator.recovery)
    (hlock : next.1.coordinator.lock = .held) : Passing scene next (some .entered)
  | left (hheld : scene.coordinator.lock = .held) (htrace : recoveriesIn next.2 = 0)
    (hlock : next.1.coordinator.lock = .free) : Passing scene next (some .left)
  | panicked (hheld : scene.coordinator.lock = .held) (htrace : recoveriesIn next.2 = 0)
    (hlock : next.1.coordinator.lock = .poisoned) : Passing scene next (some .panicked)
  | nobody (htrace : recoveriesIn next.2 = 0)
    (hlock : next.1.coordinator.lock = scene.coordinator.lock) : Passing scene next none

theorem Scene.IsSound.lock_of_visit {scene : Scene σ} (h : scene.IsSound) {visit : Visit σ}
    (hvisit : scene.visit = some visit) : scene.coordinator.lock = .held :=
  h.held_iff.mpr (by rw [hvisit]; exact Option.some_ne_none visit)

theorem Scene.IsSound.passing_arrive {scene : Scene σ} (h : scene.IsSound) (errand : Errand σ) :
    Passing scene ((Turn.arrive errand).step scene) ((Turn.arrive errand).passage? scene) := by
  rw [Turn.passage?]
  have hcomes := h.comes (.arrive errand)
  generalize (Turn.arrive errand).step scene = next at hcomes
  cases hcomes with
  | refused hvisit =>
    rw [if_neg (by simp [hvisit])]
    exact .nobody (recoveriesIn_refuse _ _) rfl
  | waits hvisit herrand =>
    rw [if_neg (by simp [hvisit])]
    exact .nobody rfl rfl
  | enters hvisit =>
    rw [if_pos (by simp [hvisit])]
    exact .entered hvisit rfl rfl
  | passes hturn channel => exact absurd rfl (hturn errand)

theorem Scene.IsSound.passing {scene : Scene σ} (h : scene.IsSound) (hquiet : scene.IsQuiet)
    (turn : Turn σ) : Passing scene (turn.step scene) (turn.passage? scene) := by
  cases turn with
  | arrive errand => exact h.passing_arrive errand
  | proceed =>
    obtain ⟨k, visit⟩ := scene
    match visit with
    | none => exact .nobody rfl rfl
    | some ⟨errand, [], calling⟩ => exact .left (h.lock_of_visit rfl) rfl rfl
    | some ⟨errand, action :: rest, calling⟩ =>
      have hlock : k.lock ≠ .poisoned := by
        rw [show k.lock = .held from h.lock_of_visit rfl]
        exact Lock.noConfusion
      exact .nobody (h.recoveriesIn_step hquiet hlock .proceed) (lock_perform _ _ _)
  | panic =>
    obtain ⟨k, visit⟩ := scene
    match visit with
    | none => exact .nobody rfl rfl
    | some ⟨errand, rest, true⟩ => exact .panicked (h.lock_of_visit rfl) rfl rfl
    | some ⟨errand, rest, false⟩ => exact .nobody rfl rfl
  | drain count => exact .nobody rfl rfl
  | closeEvents => exact .nobody rfl rfl

/-- The lock is as the last passage has left it. -/
theorem Scene.IsSound.lock_sceneAfter {scene : Scene σ} (h : scene.IsSound)
    (hquiet : scene.IsQuiet) (turns : List (Turn σ)) :
    (sceneAfter turns scene).coordinator.lock =
      ((passages turns scene).getLast?.map Passage.lock).getD scene.coordinator.lock := by
  induction turns generalizing scene with
  | nil => rfl
  | cons turn rest ih =>
    have hrest := ih (h.step turn) (h.isQuiet_step hquiet turn)
    have hturn : (turn.step scene).1.coordinator.lock =
        ((turn.passage? scene).map Passage.lock).getD scene.coordinator.lock := by
      have hpassing := h.passing hquiet turn
      generalize turn.passage? scene = passage at hpassing
      cases hpassing with
      | entered hvisit htrace hlock => exact hlock
      | left hheld htrace hlock => exact hlock
      | panicked hheld htrace hlock => exact hlock
      | nobody htrace hlock => exact hlock
    rw [sceneAfter_cons, hrest, hturn, passages, List.getLast?_append]
    cases (passages rest (turn.step scene).1).getLast? <;> cases turn.passage? scene <;> rfl

/-- How many panics are still to be noted. -/
def Scene.unnoted (scene : Scene σ) : Nat := if scene.coordinator.lock = .poisoned then 1 else 0

theorem Scene.IsSound.recoveriesIn_traceOf {scene : Scene σ} (h : scene.IsSound)
    (hquiet : scene.IsQuiet) (turns : List (Turn σ)) :
    recoveriesIn (traceOf turns scene) + (sceneAfter turns scene).unnoted =
      scene.unnoted + (passages turns scene).count .panicked := by
  induction turns generalizing scene with
  | nil => exact Nat.zero_add _
  | cons turn rest ih =>
    have hrest := ih (h.step turn) (h.isQuiet_step hquiet turn)
    have hturn : recoveriesIn (turn.step scene).2 + (turn.step scene).1.unnoted =
        scene.unnoted + (turn.passage? scene).toList.count .panicked := by
      have hpassing := h.passing hquiet turn
      generalize turn.passage? scene = passage at hpassing
      cases hpassing with
      | entered hvisit htrace hlock =>
        rw [htrace, recoveriesIn_recovery, unnoted, unnoted, hlock]
        rfl
      | left hheld htrace hlock =>
        rw [htrace, unnoted, unnoted, hlock, hheld]
        rfl
      | panicked hheld htrace hlock =>
        rw [htrace, unnoted, unnoted, hlock, hheld]
        rfl
      | nobody htrace hlock =>
        rw [htrace, unnoted, unnoted, hlock]
        exact Nat.zero_add _
    rw [traceOf, recoveriesIn_append, sceneAfter_cons, passages, List.count_append]
    omega

/-- A recovery is noted by who enters, and by nobody else. -/
theorem Scene.IsSound.noted_on_entry {scene : Scene σ} (h : scene.IsSound)
    (hquiet : scene.IsQuiet) (turn : Turn σ) :
    (turn.passage? scene = some .entered → (turn.step scene).2 = scene.coordinator.recovery) ∧
      (turn.passage? scene ≠ some .entered → recoveriesIn (turn.step scene).2 = 0) := by
  have hpassing := h.passing hquiet turn
  generalize turn.passage? scene = passage at hpassing
  cases hpassing with
  | entered hvisit htrace hlock => exact ⟨fun _ => htrace, fun hne => absurd rfl hne⟩
  | left hheld htrace hlock => exact ⟨by simp, fun _ => htrace⟩
  | panicked hheld htrace hlock => exact ⟨by simp, fun _ => htrace⟩
  | nobody htrace hlock => exact ⟨by simp, fun _ => htrace⟩

theorem Scene.IsSound.passage?_arrive_of_not_held {scene : Scene σ} (h : scene.IsSound)
    (hlock : scene.coordinator.lock ≠ .held) (errand : Errand σ) :
    (Turn.arrive errand).passage? scene = some .entered := by
  have hnone : scene.visit = none := by
    by_contra hvisit
    exact hlock (h.held_iff.mpr hvisit)
  rw [Turn.passage?, hnone]
  rfl

/-- Whoever arrives behind a thread that left or panicked enters. -/
theorem Scene.IsSound.enters_behind {scene : Scene σ} (h : scene.IsSound)
    (hquiet : scene.IsQuiet) {turn : Turn σ}
    (hpassage : turn.passage? scene = some .left ∨ turn.passage? scene = some .panicked)
    (errand : Errand σ) :
    (Turn.arrive errand).passage? (turn.step scene).1 = some .entered := by
  have hpassing := h.passing hquiet turn
  apply (h.step turn).passage?_arrive_of_not_held
  rcases hpassage with hpassage | hpassage
  · rw [hpassage] at hpassing
    cases hpassing with
    | left hheld htrace hlock => simp [hlock]
  · rw [hpassage] at hpassing
    cases hpassing with
    | panicked hheld htrace hlock => simp [hlock]

/-! ## Runs from the start -/

section Start

variable {settings : Settings} {start : Coordinator σ}

theorem isQuiet_after_new (hstart : Coordinator.new settings = .ok start) (turns : List (Turn σ)) :
    (sceneAfter turns ⟨start, none⟩).IsSound ∧ (sceneAfter turns ⟨start, none⟩).IsQuiet := by
  have hsound : (⟨start, none⟩ : Scene σ).IsSound :=
    Scene.isSound_initial (lock_after_new hstart [])
  exact ⟨Scene.isSound_sceneAfter hsound turns,
    hsound.isQuiet_sceneAfter (Scene.isQuiet_of_none rfl) turns⟩

theorem lock_eq_poisoned_iff (hstart : Coordinator.new settings = .ok start)
    (turns : List (Turn σ)) :
    (sceneAfter turns ⟨start, none⟩).coordinator.lock = .poisoned ↔
      (passages turns ⟨start, none⟩).getLast? = some .panicked := by
  obtain ⟨hsound, hquiet⟩ := isQuiet_after_new hstart []
  have hlock : (sceneAfter turns ⟨start, none⟩).coordinator.lock =
      ((passages turns ⟨start, none⟩).getLast?.map Passage.lock).getD start.lock :=
    hsound.lock_sceneAfter hquiet turns
  have hfree : start.lock = .free := by rw [new_eq hstart]
  rw [hlock, hfree]
  cases (passages turns ⟨start, none⟩).getLast? with
  | none => simp
  | some passage => cases passage <;> simp [Passage.lock]

/-- There is a note for each panic, but for a panic behind which nobody has entered. -/
theorem recoveriesIn_after_new (hstart : Coordinator.new settings = .ok start)
    (turns : List (Turn σ)) :
    recoveriesIn (traceOf turns ⟨start, none⟩) +
        (if (passages turns ⟨start, none⟩).getLast? = some .panicked then 1 else 0) =
      (passages turns ⟨start, none⟩).count .panicked := by
  obtain ⟨hsound, hquiet⟩ := isQuiet_after_new hstart []
  have hcount := hsound.recoveriesIn_traceOf hquiet turns
  have hnothing : (sceneAfter [] ⟨start, none⟩ : Scene σ).unnoted = 0 := by
    rw [new_eq hstart]
    rfl
  have hlast : (sceneAfter turns ⟨start, none⟩).unnoted =
      if (passages turns ⟨start, none⟩).getLast? = some .panicked then 1 else 0 :=
    if_congr (lock_eq_poisoned_iff hstart turns) rfl rfl
  rw [hnothing, Nat.zero_add] at hcount
  rw [← hlast]
  exact hcount

/-- Whatever has happened, with any number of panics, and whatever comes, with any number more: all
that is seen but for the notes that the state was taken over, and all that is left but for the
poison, are the same as with a lock that is mended now and after every later turn; so looks give
the same as well. From a poisoned lock on, the same comes about as from a free one, behind a single
note as soon as someone arrives. The notes are as many as the panics, except that the last panic may
still be to note, and each is written by the thread that is the first to enter behind it, before
anything else. A change is not dropped when nobody is inside, and whoever arrives behind a thread
that left or panicked enters. Every run of moves is such a run, and leaves the lock free to
enter. -/
theorem poisoning_is_transparent (hstart : Coordinator.new settings = .ok start)
    (turns : List (Turn σ)) :
    let scene := sceneAfter turns ⟨start, none⟩
    let passed := passages turns ⟨start, none⟩
    (∀ later,
      let here := sceneAfter later scene
      let ideal := mendedAfter later scene.mended
      apartFromRecoveries (traceOf later scene) = mendedTrace later scene.mended ∧
        here.mended = ideal ∧ here.coordinator.inspect.1 = ideal.coordinator.inspect.1) ∧
      (scene.coordinator.lock = .poisoned → ∀ later,
        (traceOf later scene =
            (if later.any Turn.isArrival then [.noted .recovered] else []) ++
              traceOf later scene.mended) ∧
          sceneAfter later scene.mended =
            if later.any Turn.isArrival then sceneAfter later scene
            else (sceneAfter later scene).mended) ∧
      recoveriesIn (traceOf turns ⟨start, none⟩) +
          (if passed.getLast? = some .panicked then 1 else 0) = passed.count .panicked ∧
      (∀ turn : Turn σ,
        (turn.passage? scene = some .entered → (turn.step scene).2 =
          if passed.getLast? = some .panicked then [.noted .recovered] else []) ∧
        (turn.passage? scene ≠ some .entered → recoveriesIn (turn.step scene).2 = 0)) ∧
      (∀ change, scene.visit = none → droppedIn ((Turn.ofChange change).step scene).2 = []) ∧
      (∀ turn : Turn σ, turn.passage? scene = some .left ∨ turn.passage? scene = some .panicked →
        ∀ errand, (Turn.arrive errand).passage? (turn.step scene).1 = some .entered) ∧
      ∀ moves, (after moves start).lock ≠ .held ∧ ∃ turns,
        Plays turns ⟨start, none⟩ ⟨after moves start, none⟩ (history moves start) := by
  intro scene passed
  obtain ⟨hsound, hquiet⟩ := isQuiet_after_new hstart turns
  have hnotes : scene.coordinator.recovery =
      if passed.getLast? = some .panicked then [.noted .recovered] else [] :=
    if_congr (lock_eq_poisoned_iff hstart turns) rfl rfl
  refine ⟨?_, hsound.plays_of_poisoned, recoveriesIn_after_new hstart turns, ?_, ?_, ?_, ?_⟩
  · intro later here ideal
    obtain ⟨hscene, htrace⟩ := hsound.sceneAfter_mended hquiet later
    refine ⟨htrace, hscene, ?_⟩
    rw [inspect_fst, inspect_fst]
    exact congrArg (fun scene => scene.coordinator.state) hscene
  · intro turn
    rw [← hnotes]
    exact hsound.noted_on_entry hquiet turn
  · intro change hnone
    rw [hsound.droppedIn_step, Turn.turnedAway_of_none hnone]
    rfl
  · intro turn hpassage errand
    exact hsound.enters_behind hquiet hpassage errand
  · intro moves
    exact ⟨lock_after_new hstart moves, run_is_interleaving (lock_after_new hstart []) moves⟩

/-- Both the attachment and a change are cut short, with other changes between. The attachment's
panic is noted by the change and the change's panic by the look behind it; the next delivery then
does what it does behind a lock that was never poisoned. -/
theorem two_panics_are_noted_by_who_comes_next :
    let start : Coordinator String := ⟨.skip, .new 9, .initial, .free⟩
    let wifi : Change := ⟨⟨"wifi"⟩, ["1.1.1.1"]⟩
    let cell : Change := ⟨⟨"cell"⟩, ["8.8.8.8"]⟩
    let broken : Call String → Interference String := fun call => ⟨fun _ => [cell], (· = call)⟩
    let moves : List (Move String) := [
      .operate (.attach "s") (broken (.command "s" (.setStatus .connecting))),
      .operate (.change wifi) (broken (.command "s" .reconnect))]
    let turns := turnsOf moves start
    let later := turnsOf [.inspect, .operate (.change wifi) .none] (after moves start)
    (sceneAfter turns ⟨start, none⟩).coordinator.lock = .poisoned ∧
      passages turns ⟨start, none⟩ = [.entered, .panicked, .entered, .panicked] ∧
      recoveriesIn (traceOf turns ⟨start, none⟩) = 1 ∧
      traceOf later (sceneAfter turns ⟨start, none⟩) =
        .noted .recovered :: traceOf later (sceneAfter turns ⟨start, none⟩).mended ∧
      apartFromRecoveries (traceOf later (sceneAfter turns ⟨start, none⟩)) =
        mendedTrace later (sceneAfter turns ⟨start, none⟩).mended ∧
      (sceneAfter later (sceneAfter turns ⟨start, none⟩)).coordinator.inspect.1 =
        ⟨.up, some "s", some ⟨⟨"wifi"⟩, [.v4 ⟨1, 1, 1, 1⟩]⟩⟩ := by
  intro start wifi cell broken moves turns later
  have hstart : Coordinator.new ⟨.skip, 9⟩ = .ok start := rfl
  have hlock : (sceneAfter turns ⟨start, none⟩).coordinator.lock = .poisoned := by decide +kernel
  have hpassages : passages turns ⟨start, none⟩ = [.entered, .panicked, .entered, .panicked] := by
    decide +kernel
  have harrival : later.any Turn.isArrival = true := by decide +kernel
  obtain ⟨hlater, hpoisoned, hcount, -⟩ := poisoning_is_transparent hstart turns
  have htrace := (hpoisoned hlock later).1
  rw [harrival, if_pos rfl, List.singleton_append] at htrace
  rw [hpassages] at hcount
  have hnoted := Nat.succ.inj hcount
  exact ⟨hlock, hpassages, hnoted, htrace, (hlater later).1, by decide +kernel⟩

end Start

end PathKeeper.Coordinator
