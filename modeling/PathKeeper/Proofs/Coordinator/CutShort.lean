import PathKeeper.Coordinator.Basic

/-!
# Scripts that are cut short

A call that panics ends a script. What is carried out of the script is a front part of it.
-/

namespace PathKeeper.Coordinator

set_option autoImplicit false

variable {σ : Type}

/-! ## Scripts as data -/

namespace Action

@[simp] def call? : Action σ → Option (Call σ)
  | .call c => some c
  | _ => none

@[simp] def event? : Action σ → Option Event
  | .emit e => some e
  | _ => none

def panics (i : Interference σ) : Action σ → Bool
  | .call c => i.panics c
  | _ => false

@[simp] def settle (state : State σ) : Action σ → State σ
  | .write written => written
  | _ => state

def isWrite : Action σ → Bool
  | .write _ => true
  | _ => false

/-- Whether an action tells the observer that a change was refused. -/
def isRefusal : Action σ → Bool
  | .emit (.changeDropped _) => true
  | _ => false

end Action

def callsOf (actions : List (Action σ)) : List (Call σ) := actions.filterMap Action.call?

def eventsOf (actions : List (Action σ)) : List Event := actions.filterMap Action.event?

def settled (state : State σ) (actions : List (Action σ)) : State σ :=
  actions.foldl Action.settle state

def isCut (i : Interference σ) (actions : List (Action σ)) : Bool := actions.any (Action.panics i)

/-- The part of a script that is carried out: up to the first call that panics. -/
def carriedOut (i : Interference σ) : List (Action σ) → List (Action σ)
  | [] => []
  | action :: rest => if action.panics i then [action] else action :: carriedOut i rest

@[simp] theorem callsOf_nil : callsOf ([] : List (Action σ)) = [] := rfl

@[simp] theorem callsOf_cons (action : Action σ) (rest : List (Action σ)) :
    callsOf (action :: rest) = action.call?.toList ++ callsOf rest := by
  cases action <;> rfl

@[simp] theorem callsOf_append (front back : List (Action σ)) :
    callsOf (front ++ back) = callsOf front ++ callsOf back := List.filterMap_append

@[simp] theorem eventsOf_nil : eventsOf ([] : List (Action σ)) = [] := rfl

@[simp] theorem eventsOf_cons (action : Action σ) (rest : List (Action σ)) :
    eventsOf (action :: rest) = action.event?.toList ++ eventsOf rest := by
  cases action <;> rfl

@[simp] theorem eventsOf_append (front back : List (Action σ)) :
    eventsOf (front ++ back) = eventsOf front ++ eventsOf back := List.filterMap_append

@[simp] theorem settled_nil (state : State σ) : settled state [] = state := rfl

@[simp] theorem settled_cons (state : State σ) (action : Action σ) (rest : List (Action σ)) :
    settled state (action :: rest) = settled (action.settle state) rest := rfl

@[simp] theorem settled_append (state : State σ) (front back : List (Action σ)) :
    settled state (front ++ back) = settled (settled state front) back := List.foldl_append

@[simp] theorem panics_call (i : Interference σ) (call : Call σ) :
    (Action.call call).panics i = i.panics call := rfl

@[simp] theorem panics_note (i : Interference σ) (note : Note) :
    (Action.note note).panics i = false := rfl

@[simp] theorem panics_write (i : Interference σ) (state : State σ) :
    (Action.write state).panics i = false := rfl

@[simp] theorem panics_emit (i : Interference σ) (event : Event) :
    (Action.emit event).panics i = false := rfl

@[simp] theorem isCut_nil (i : Interference σ) : isCut i [] = false := rfl

@[simp] theorem isCut_cons (i : Interference σ) (action : Action σ) (rest : List (Action σ)) :
    isCut i (action :: rest) = (action.panics i || isCut i rest) := rfl

@[simp] theorem isCut_append (i : Interference σ) (front back : List (Action σ)) :
    isCut i (front ++ back) = (isCut i front || isCut i back) := List.any_append

theorem carriedOut_isPrefix (i : Interference σ) (actions : List (Action σ)) :
    carriedOut i actions <+: actions := by
  induction actions with
  | nil => exact List.nil_prefix
  | cons action rest ih =>
    unfold carriedOut
    split
    · exact ⟨rest, rfl⟩
    · exact List.cons_prefix_cons.mpr ⟨rfl, ih⟩

theorem carriedOut_of_not_isCut {i : Interference σ} {actions : List (Action σ)}
    (h : isCut i actions = false) : carriedOut i actions = actions := by
  induction actions with
  | nil => rfl
  | cons action rest ih =>
    simp only [isCut_cons, Bool.or_eq_false_iff] at h
    simp [carriedOut, h.1, ih h.2]

def Interference.IsCalm (i : Interference σ) : Prop := ∀ call, i.panics call = false

theorem Interference.isCalm_none : (Interference.none : Interference σ).IsCalm := fun _ => rfl

theorem isCut_of_isCalm {i : Interference σ} (h : i.IsCalm) (actions : List (Action σ)) :
    isCut i actions = false := by
  unfold isCut
  rw [List.any_eq_false]
  intro action _
  cases action with
  | call call => simp [Action.panics, h call]
  | note note => exact Bool.false_ne_true
  | write state => exact Bool.false_ne_true
  | emit event => exact Bool.false_ne_true

theorem carriedOut_none (actions : List (Action σ)) : carriedOut .none actions = actions :=
  carriedOut_of_not_isCut (isCut_of_isCalm Interference.isCalm_none actions)

theorem carriedOut_append_of_isCut {i : Interference σ} {front : List (Action σ)}
    (h : isCut i front = true) (back : List (Action σ)) :
    carriedOut i (front ++ back) = carriedOut i front := by
  induction front with
  | nil => simp at h
  | cons action rest ih =>
    simp only [List.cons_append, carriedOut]
    split
    · rfl
    · next hp =>
      have hrest : isCut i rest = true := by simpa [hp] using h
      rw [ih hrest]

theorem carriedOut_append_of_not_isCut {i : Interference σ} {front : List (Action σ)}
    (h : isCut i front = false) (back : List (Action σ)) :
    carriedOut i (front ++ back) = front ++ carriedOut i back := by
  induction front with
  | nil => rfl
  | cons action rest ih =>
    simp only [isCut_cons, Bool.or_eq_false_iff] at h
    simp [carriedOut, h.1, ih h.2]

theorem settled_of_no_write {actions : List (Action σ)} (h : actions.any Action.isWrite = false)
    (state : State σ) : settled state actions = state := by
  induction actions with
  | nil => rfl
  | cons action rest ih =>
    simp only [List.any_cons, Bool.or_eq_false_iff] at h
    cases action with
    | write written => simp [Action.isWrite] at h
    | note note => exact ih h.2
    | call call => exact ih h.2
    | emit event => exact ih h.2

theorem settled_carriedOut_of_no_write {actions : List (Action σ)}
    (h : actions.any Action.isWrite = false) (i : Interference σ) (state : State σ) :
    settled state (carriedOut i actions) = state := by
  apply settled_of_no_write
  rw [List.any_eq_false] at h ⊢
  intro action ha
  exact h action ((carriedOut_isPrefix i actions).subset ha)

/-! ## Calls in front -/

section Calls

variable {i : Interference σ} {call : Call σ}

theorem carriedOut_call_of_panics (h : i.panics call = true) (rest : List (Action σ)) :
    carriedOut i (.call call :: rest) = [.call call] := by
  simp [carriedOut, h]

theorem carriedOut_call_of_returns (h : i.panics call = false) (rest : List (Action σ)) :
    carriedOut i (.call call :: rest) = .call call :: carriedOut i rest := by
  simp [carriedOut, h]

end Calls

end PathKeeper.Coordinator
