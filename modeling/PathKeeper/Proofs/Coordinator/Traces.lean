import Mathlib.Data.List.Basic
import PathKeeper.Proofs.Coordinator.CutShort

/-!
# What is seen of a performance

Apart from the notes in the log, what is seen of a performance is what each action shows that is
carried out: a call is received, with the changes that are refused meanwhile, and an event is told
whether or not there is room for it. The state and the panic are read off the same part of the
script.
-/

namespace PathKeeper.Coordinator

set_option autoImplicit false

variable {σ : Type}

/-! ## Traces as data -/

namespace Happening

def isNote : Happening σ → Bool
  | .noted _ => true
  | _ => false

def call? : Happening σ → Option (Call σ)
  | .called call => some call
  | _ => none

/-- An event that an operation under way tells of itself. -/
def event? : Happening σ → Option Event
  | .emitted (.changeDropped _) => none
  | .emitted e => some e
  | _ => none

def dropped? : Happening σ → Option Identity
  | .emitted (.changeDropped identity) => some identity
  | _ => none

def ofRefused (change : Change) : Happening σ := .emitted (.changeDropped change.identity)

end Happening

/-- What is seen apart from the log. -/
def visibleIn (trace : List (Happening σ)) : List (Happening σ) :=
  trace.filter fun happening => !happening.isNote

def callsIn (trace : List (Happening σ)) : List (Call σ) := trace.filterMap Happening.call?

/-- The events that operations told of themselves. -/
def eventsIn (trace : List (Happening σ)) : List Event := trace.filterMap Happening.event?

def droppedIn (trace : List (Happening σ)) : List Identity := trace.filterMap Happening.dropped?

@[simp] theorem callsIn_nil : callsIn ([] : List (Happening σ)) = [] := rfl

@[simp] theorem callsIn_called_cons (call : Call σ) (trace : List (Happening σ)) :
    callsIn (.called call :: trace) = call :: callsIn trace := rfl

@[simp] theorem callsIn_append (front back : List (Happening σ)) :
    callsIn (front ++ back) = callsIn front ++ callsIn back := List.filterMap_append

@[simp] theorem eventsIn_append (front back : List (Happening σ)) :
    eventsIn (front ++ back) = eventsIn front ++ eventsIn back := List.filterMap_append

@[simp] theorem droppedIn_append (front back : List (Happening σ)) :
    droppedIn (front ++ back) = droppedIn front ++ droppedIn back := List.filterMap_append

@[simp] theorem callsIn_recovery (k : Coordinator σ) : callsIn k.recovery = [] := by
  unfold recovery
  split <;> rfl

@[simp] theorem eventsIn_recovery (k : Coordinator σ) : eventsIn k.recovery = [] := by
  unfold recovery
  split <;> rfl

@[simp] theorem droppedIn_recovery (k : Coordinator σ) : droppedIn k.recovery = [] := by
  unfold recovery
  split <;> rfl

theorem visibleIn_cons (happening : Happening σ) (trace : List (Happening σ)) :
    visibleIn (happening :: trace) = visibleIn [happening] ++ visibleIn trace :=
  List.filter_append [happening] trace

theorem visibleIn_append (front back : List (Happening σ)) :
    visibleIn (front ++ back) = visibleIn front ++ visibleIn back := List.filter_append front back

/-- Whatever takes no notice of the log can be read off what is visible. -/
theorem filterMap_visibleIn {β : Type} {f : Happening σ → Option β}
    (h : ∀ note, f (.noted note) = none) (trace : List (Happening σ)) :
    (visibleIn trace).filterMap f = trace.filterMap f := by
  induction trace with
  | nil => rfl
  | cons happening trace ih =>
    have hone : (visibleIn [happening]).filterMap f = [happening].filterMap f := by
      cases happening with
      | noted note => exact (List.filterMap_cons_none (h note)).symm
      | called call => rfl
      | emitted event => rfl
    rw [visibleIn_cons, List.filterMap_append, ih, hone, ← List.filterMap_append]
    rfl

theorem visibleIn_emission (event : Event) (k : Coordinator σ) :
    visibleIn (k.emission event) = [.emitted event] := by
  unfold emission
  split <;> rfl

theorem droppedIn_refuse (change : Change) (k : Coordinator σ) :
    droppedIn (k.refuse change).trace = [change.identity] := by
  simp only [refuse, emission]
  split <;> rfl

theorem callsIn_refuse (change : Change) (k : Coordinator σ) :
    callsIn (k.refuse change).trace = [] := by
  simp only [refuse, emission]
  split <;> rfl

theorem visibleIn_refuseAll (changes : List Change) (k : Coordinator σ) :
    visibleIn (k.refuseAll changes).trace = changes.map Happening.ofRefused := by
  induction changes generalizing k with
  | nil => rfl
  | cons change changes ih =>
    change visibleIn (.noted _ :: (k.emission (.changeDropped change.identity) ++
      ((k.refuse change).coordinator.refuseAll changes).trace)) = _
    rw [visibleIn_cons, visibleIn_append, visibleIn_emission, ih]
    rfl

/-! ## Performances -/

section Calls

variable {i : Interference σ} {call : Call σ}

theorem perform_call_of_panics (h : i.panics call = true) (rest : List (Action σ))
    (k : Coordinator σ) :
    perform i (.call call :: rest) k =
      ⟨(k.refuseAll (i.contending call)).coordinator,
        .called call :: (k.refuseAll (i.contending call)).trace, true⟩ := by
  simp [perform, h]

theorem perform_call_of_returns (h : i.panics call = false) (rest : List (Action σ))
    (k : Coordinator σ) :
    perform i (.call call :: rest) k =
      (perform i rest (k.refuseAll (i.contending call)).coordinator).after
        (.called call :: (k.refuseAll (i.contending call)).trace) := by
  simp [perform, h]

end Calls

def Action.shown (i : Interference σ) : Action σ → List (Happening σ)
  | .call c => .called c :: (i.contending c).map Happening.ofRefused
  | .emit e => [.emitted e]
  | _ => []

/-- A performance shows what its actions show, up to a panic. -/
theorem visibleIn_perform (i : Interference σ) (actions : List (Action σ)) (k : Coordinator σ) :
    visibleIn (perform i actions k).trace = (carriedOut i actions).flatMap (Action.shown i) := by
  induction actions generalizing k with
  | nil => rfl
  | cons action rest ih =>
    cases action with
    | note note => exact ih k
    | write state => exact ih { k with state := state }
    | emit event =>
      change visibleIn (k.emission event ++ (perform i rest (k.emit event)).trace) = _
      rw [visibleIn_append, visibleIn_emission]
      exact congrArg (.emitted event :: ·) (ih (k.emit event))
    | call call =>
      have hcrowd : visibleIn (.called call :: (k.refuseAll (i.contending call)).trace) =
          (Action.call call).shown i := by
        rw [visibleIn_cons, visibleIn_refuseAll]
        rfl
      cases hp : i.panics call with
      | true =>
        rw [perform_call_of_panics hp, carriedOut_call_of_panics hp, List.flatMap_singleton]
        exact hcrowd
      | false =>
        rw [perform_call_of_returns hp, carriedOut_call_of_returns hp, List.flatMap_cons, ← ih,
          ← hcrowd]
        exact visibleIn_append _ _

section Projections

variable (i : Interference σ) {actions : List (Action σ)}

theorem filterMap_perform {β : Type} {f : Happening σ → Option β}
    (h : ∀ note, f (.noted note) = none) (k : Coordinator σ) :
    (perform i actions k).trace.filterMap f =
      (carriedOut i actions).flatMap fun action => (action.shown i).filterMap f := by
  rw [← filterMap_visibleIn h, visibleIn_perform, List.filterMap_flatMap]

theorem callsIn_perform (k : Coordinator σ) :
    callsIn (perform i actions k).trace = callsOf (carriedOut i actions) := by
  rw [callsIn, filterMap_perform i (fun _ => rfl), callsOf, List.filterMap_eq_flatMap_toList]
  apply List.flatMap_congr
  intro action _
  cases action with
  | note note => rfl
  | write state => rfl
  | call call => simp [Action.shown, Happening.call?, Happening.ofRefused]
  | emit event => rfl

theorem dropped?_ofRefused (changes : List Change) :
    (changes.map Happening.ofRefused : List (Happening σ)).filterMap Happening.dropped? =
      changes.map Change.identity := by
  rw [List.filterMap_map]
  exact congrFun List.filterMap_eq_map changes

theorem isRefusal_carriedOut (h : actions.any Action.isRefusal = false) {action : Action σ}
    (hmem : action ∈ carriedOut i actions) : action.isRefusal = false := by
  rw [List.any_eq_false] at h
  simpa using h action ((carriedOut_isPrefix i actions).subset hmem)

theorem eventsIn_perform (h : actions.any Action.isRefusal = false) (k : Coordinator σ) :
    eventsIn (perform i actions k).trace = eventsOf (carriedOut i actions) := by
  rw [eventsIn, filterMap_perform i (fun _ => rfl), eventsOf, List.filterMap_eq_flatMap_toList]
  apply List.flatMap_congr
  intro action hmem
  have hrefusal := isRefusal_carriedOut i h hmem
  cases action with
  | note note => rfl
  | write state => rfl
  | call call => simp [Action.shown, Happening.event?, Happening.ofRefused]
  | emit event => cases event <;> first | rfl | cases hrefusal

theorem droppedIn_perform (h : actions.any Action.isRefusal = false) (k : Coordinator σ) :
    droppedIn (perform i actions k).trace =
      (callsOf (carriedOut i actions)).flatMap fun call =>
        (i.contending call).map Change.identity := by
  rw [droppedIn, filterMap_perform i (fun _ => rfl), callsOf, List.filterMap_eq_flatMap_toList,
    List.flatMap_assoc]
  apply List.flatMap_congr
  intro action hmem
  have hrefusal := isRefusal_carriedOut i h hmem
  cases action with
  | note note => rfl
  | write state => rfl
  | call call =>
    rw [Action.shown, List.filterMap_cons_none rfl, dropped?_ofRefused]
    simp
  | emit event => cases event <;> first | rfl | cases hrefusal

end Projections

theorem state_perform (i : Interference σ) (actions : List (Action σ)) (k : Coordinator σ) :
    (perform i actions k).coordinator.state = settled k.state (carriedOut i actions) := by
  induction actions generalizing k with
  | nil => rfl
  | cons action rest ih =>
    cases action with
    | note note => exact ih k
    | write state => exact ih { k with state := state }
    | emit event => exact ih (k.emit event)
    | call call =>
      have hcrowd := state_refuseAll (i.contending call) k
      cases hp : i.panics call with
      | true =>
        rw [perform_call_of_panics hp, carriedOut_call_of_panics hp]
        exact hcrowd
      | false =>
        have hrest := ih (k.refuseAll (i.contending call)).coordinator
        rw [hcrowd] at hrest
        rw [perform_call_of_returns hp, carriedOut_call_of_returns hp]
        exact hrest

section One

variable (action : Action σ) (k : Coordinator σ)

theorem state_perform_one :
    (perform .none [action] k).coordinator.state = action.settle k.state := by
  rw [state_perform, carriedOut_none]
  rfl

theorem callsIn_perform_one :
    callsIn (perform .none [action] k).trace = action.call?.toList := by
  rw [callsIn_perform, carriedOut_none, callsOf_cons, callsOf_nil, List.append_nil]

end One

theorem panicked_perform (i : Interference σ) (actions : List (Action σ)) (k : Coordinator σ) :
    (perform i actions k).panicked = isCut i actions := by
  induction actions generalizing k with
  | nil => rfl
  | cons action rest ih =>
    cases action with
    | note note => exact ih k
    | write state => exact ih { k with state := state }
    | emit event => exact ih (k.emit event)
    | call call =>
      have hcons : isCut i (.call call :: rest) = (i.panics call || isCut i rest) := rfl
      cases hp : i.panics call with
      | true => rw [perform_call_of_panics hp, hcons, hp, Bool.true_or]
      | false =>
        rw [perform_call_of_returns hp, hcons, hp, Bool.false_or]
        exact ih _

end PathKeeper.Coordinator
