import PathKeeper.Proofs.Coordinator.Record

/-!
# Verdicts

Every change gets one verdict: it was dropped, there was no session, it was discarded, or it was
committed. However threads take turns, the verdicts that are told are those of the changes that
came, one for each. The snapshot in place is the one that was committed last.
-/

namespace PathKeeper.Coordinator

set_option autoImplicit false

variable {σ : Type}

/-! ## Verdicts among events -/

/-- The network of the change on which an event is the verdict. -/
def Event.verdict? : Event → Option Identity
  | .changeDropped identity => some identity
  | .sessionUnavailable identity => some identity
  | .updateRejected identity _ => some identity
  | .snapshotCommitted snapshot => some snapshot.identity
  | _ => none

def Event.isVerdict (event : Event) : Bool := event.verdict?.isSome

def Event.snapshot? : Event → Option Snapshot
  | .snapshotCommitted snapshot => some snapshot
  | _ => none

def verdictsAmong (events : List Event) : List Event := events.filter Event.isVerdict

@[simp] theorem verdictsAmong_append (front back : List Event) :
    verdictsAmong (front ++ back) = verdictsAmong front ++ verdictsAmong back :=
  List.filter_append front back

theorem verdictsAmong_statusEvents (before after : SessionStatus) :
    verdictsAmong (statusEvents before after) = [] := by
  unfold statusEvents
  split <;> rfl

theorem verdictsAmong_correctionEvents (last : Option Snapshot) (next : Snapshot) :
    verdictsAmong (correctionEvents last next) = [] := by
  unfold correctionEvents
  split <;> split <;> rfl

def Operation.change? : Operation σ → Option Change
  | .change reported => some reported
  | _ => none

def Errand.change? : Errand σ → Option Change
  | .operate op => op.change?
  | .look => none

def Turn.change? : Turn σ → Option Change
  | .arrive errand => errand.change?
  | _ => none

/-- An operation tells a verdict only if it is a change, and then one on that change. -/
theorem verdict?_eventsDue (policy : Policy) (state : State σ) (op : Operation σ) :
    (verdictsAmong (eventsDue policy state op)).map Event.verdict? =
      op.change?.toList.map fun change => some change.identity := by
  cases op with
  | change change =>
    cases hs : state.session with
    | none =>
      rw [eventsDue_change_of_no_session hs]
      rfl
    | some session =>
      cases hc : change.snapshot? policy with
      | none =>
        obtain ⟨reason, hevents⟩ := eventsDue_change_of_discarded hs hc
        rw [hevents]
        rfl
      | some snapshot =>
        obtain ⟨-, hsnapshot⟩ := Change.normalize_of_snapshot? hc
        rw [eventsDue_change_of_snapshot hs hc, verdictsAmong_append, verdictsAmong_append,
          verdictsAmong_statusEvents, verdictsAmong_correctionEvents, hsnapshot]
        rfl
  | attach session =>
    rw [eventsDue, verdictsAmong_append, verdictsAmong_statusEvents]
    rfl
  | detach =>
    rw [eventsDue, verdictsAmong_append, verdictsAmong_statusEvents]
    rfl
  | loseTransport =>
    rw [eventsDue]
    split
    · rfl
    · rw [verdictsAmong_statusEvents]
      rfl
  | fail reason =>
    rw [eventsDue]
    split
    · rfl
    · rw [verdictsAmong_statusEvents]
      rfl

theorem verdict?_errand (policy : Policy) (state : State σ) (errand : Errand σ) :
    (verdictsAmong (eventsOf (errand.script policy state))).map Event.verdict? =
      errand.change?.toList.map fun change => some change.identity := by
  cases errand with
  | operate op =>
    rw [Errand.script, eventsOf_script]
    exact verdict?_eventsDue policy state op
  | look => rfl

/-! ## Whose verdict it is -/

/-- Threads are named by the number of the turn in which they arrived. -/
def Turn.speaker (inside now : Nat) : Turn σ → Nat
  | .arrive _ => now
  | _ => inside

/-- Who is inside after a turn, if anyone is: where nobody was, whoever arrives in it. -/
def Scene.insider (inside now : Nat) (scene : Scene σ) : Nat :=
  if scene.visit.isNone then now else inside

def Turn.verdicts (inside now : Nat) (scene : Scene σ) (turn : Turn σ) : List (Nat × Event) :=
  (verdictsAmong (emittedIn (turn.step scene).2)).map fun event => (turn.speaker inside now, event)

/-- The verdicts that are told, each with the thread that tells it. -/
def verdicts (inside now : Nat) : List (Turn σ) → Scene σ → List (Nat × Event)
  | [], _ => []
  | turn :: rest, scene =>
    turn.verdicts inside now scene ++
      verdicts (scene.insider inside now) (now + 1) rest (turn.step scene).1

/-- The changes that come, each with its thread. -/
def changesFrom (now : Nat) : List (Turn σ) → List (Nat × Change)
  | [] => []
  | turn :: rest =>
    (turn.change?.toList.map fun change => (now, change)) ++ changesFrom (now + 1) rest

/-- Which thread a verdict is told by, and on which network. -/
def signed (verdict : Nat × Event) : Nat × Option Identity := (verdict.1, verdict.2.verdict?)

/-- Which thread a verdict is to be told by, and on which network. -/
def awaited (change : Nat × Change) : Nat × Option Identity := (change.1, some change.2.identity)

/-- The verdicts that the thread inside has yet to tell. -/
def Scene.verdictsDue (inside : Nat) (scene : Scene σ) : List (Nat × Option Identity) :=
  (verdictsAmong (eventsOf scene.pending)).map fun event => (inside, event.verdict?)

theorem le_of_mem_changesFrom {now : Nat} {turns : List (Turn σ)} {change : Nat × Change}
    (h : change ∈ changesFrom now turns) : now ≤ change.1 := by
  induction turns generalizing now with
  | nil => cases h
  | cons turn rest ih =>
    rcases List.mem_append.mp h with h | h
    · obtain ⟨_, -, rfl⟩ := List.mem_map.mp h
      exact Nat.le_refl now
    · have hlater := ih h
      omega

theorem nodup_changesFrom (now : Nat) (turns : List (Turn σ)) :
    ((changesFrom now turns).map Prod.fst).Nodup := by
  induction turns generalizing now with
  | nil => exact .nil
  | cons turn rest ih =>
    rw [changesFrom]
    cases turn.change? with
    | none => exact ih (now + 1)
    | some change =>
      refine List.nodup_cons.mpr ⟨?_, ih (now + 1)⟩
      intro hmem
      obtain ⟨later, hlater, hsame⟩ := List.mem_map.mp hmem
      have hle := le_of_mem_changesFrom hlater
      rw [hsame] at hle
      exact Nat.not_succ_le_self now hle

theorem emittedIn_perform_one (action : Action σ) (k : Coordinator σ) :
    emittedIn (perform .none [action] k).trace = action.event?.toList := by
  cases action with
  | note note => rfl
  | write state => rfl
  | call call => rfl
  | emit event =>
    have htrace : (perform .none [.emit event] k).trace = k.emission event := List.append_nil _
    rw [htrace]
    exact emittedIn_emission event k

section Visits

variable {scene : Scene σ} {visit : Visit σ}

theorem Scene.insider_of_visit (h : scene.visit = some visit) (inside now : Nat) :
    scene.insider inside now = inside := by
  rw [insider, h]
  rfl

theorem Scene.insider_of_none (h : scene.visit = none) (inside now : Nat) :
    scene.insider inside now = now := by
  rw [insider, h]
  rfl

theorem Scene.verdictsDue_of_none (h : scene.visit = none) (inside : Nat) :
    scene.verdictsDue inside = [] := by
  rw [verdictsDue, pending_of_none h]
  rfl

theorem Scene.verdictsDue_insider (inside now : Nat) (scene : Scene σ) :
    scene.verdictsDue (scene.insider inside now) = scene.verdictsDue inside := by
  cases hvisit : scene.visit with
  | none => rw [verdictsDue_of_none hvisit, verdictsDue_of_none hvisit]
  | some visit => rw [insider_of_visit hvisit]

end Visits

/-- A thread owes a verdict from when it enters with a change until it has told one. -/
theorem Scene.IsSound.verdicts_step {scene : Scene σ} (h : scene.IsSound) {turn : Turn σ}
    (hcalm : turn ≠ .panic) (inside now : Nat) :
    ((turn.verdicts inside now scene).map signed ++
        (turn.step scene).1.verdictsDue (scene.insider inside now)).Perm
      (scene.verdictsDue inside ++
        (turn.change?.toList.map fun change => (now, change)).map awaited) := by
  unfold Turn.verdicts
  have hcomes := h.comes turn
  generalize turn.step scene = next at hcomes
  cases hcomes with
  | @refused change visit hvisit =>
    have hsame : Scene.verdictsDue inside ⟨(scene.coordinator.refuse change).coordinator,
        some visit⟩ = scene.verdictsDue inside := by
      rw [verdictsDue, verdictsDue, pending_of_visit hvisit]
      rfl
    rw [emittedIn_refuse, insider_of_visit hvisit, hsame]
    exact List.perm_append_comm
  | @waits errand visit hvisit herrand =>
    have hnone : errand.change? = none := by
      cases errand with
      | look => rfl
      | operate op =>
        cases op with
        | change change => exact absurd rfl (herrand change)
        | _ => rfl
    rw [Turn.change?, hnone, verdictsDue_insider]
    exact .of_eq (List.append_nil _).symm
  | @enters errand hvisit =>
    have hdue := verdict?_errand scene.coordinator.policy scene.coordinator.state errand
    have hnamed := congrArg (List.map fun network => (now, network)) hdue
    rw [List.map_map, List.map_map] at hnamed
    rw [emittedIn_recovery, insider_of_none hvisit, verdictsDue_of_none hvisit, List.map_map,
      List.map_map]
    exact .of_eq hnamed
  | @acts errand action rest calling hvisit =>
    have hdue : scene.verdictsDue inside =
        (verdictsAmong action.event?.toList).map (fun event => (inside, event.verdict?)) ++
          (verdictsAmong (eventsOf rest)).map fun event => (inside, event.verdict?) := by
      rw [verdictsDue, pending_of_visit hvisit, eventsOf_cons, verdictsAmong_append,
        List.map_append]
    rw [emittedIn_perform_one, insider_of_visit hvisit, hdue, List.map_map]
    exact .of_eq (List.append_nil _).symm
  | leaves hvisit =>
    rw [verdictsDue_of_none rfl, verdictsDue, pending_of_visit hvisit]
    exact .refl _
  | panics hvisit => exact absurd rfl hcalm
  | passes hturn channel =>
    have hnone : turn.change? = none := by
      cases turn with
      | arrive errand => exact absurd rfl (hturn errand)
      | _ => rfl
    have hsame := scene.verdictsDue_insider inside now
    rw [hnone]
    exact .of_eq (hsame.trans (List.append_nil _).symm)

theorem Scene.IsSound.verdicts_sceneAfter {scene : Scene σ} (h : scene.IsSound)
    {turns : List (Turn σ)} (hcalm : .panic ∉ turns) (inside now : Nat) :
    ∃ last,
      ((verdicts inside now turns scene).map signed ++
          (sceneAfter turns scene).verdictsDue last).Perm
        (scene.verdictsDue inside ++ (changesFrom now turns).map awaited) := by
  induction turns generalizing scene inside now with
  | nil => exact ⟨inside, .of_eq (List.append_nil _).symm⟩
  | cons turn rest ih =>
    obtain ⟨hturn, hrest⟩ := not_or.mp fun hmem => hcalm (List.mem_cons.mpr hmem)
    have hstep := h.verdicts_step (Ne.symm hturn) inside now
    obtain ⟨last, hlater⟩ := ih (h.step turn) hrest (scene.insider inside now) (now + 1)
    have hfront := hlater.append_left ((turn.verdicts inside now scene).map signed)
    have hback := hstep.append_right ((changesFrom (now + 1) rest).map awaited)
    rw [List.append_assoc, List.append_assoc] at hback
    refine ⟨last, ?_⟩
    rw [verdicts, changesFrom, List.map_append, List.map_append, List.append_assoc]
    exact hfront.trans hback

theorem snd_verdicts (inside now : Nat) (turns : List (Turn σ)) (scene : Scene σ) :
    (verdicts inside now turns scene).map Prod.snd =
      verdictsAmong (emittedIn (traceOf turns scene)) := by
  induction turns generalizing inside now scene with
  | nil => rfl
  | cons turn rest ih =>
    have hturn : (turn.verdicts inside now scene).map Prod.snd =
        verdictsAmong (emittedIn (turn.step scene).2) := by
      rw [Turn.verdicts, List.map_map]
      exact List.map_id _
    rw [verdicts, List.map_append, hturn, ih, traceOf, emittedIn_append, verdictsAmong_append]

/-! ## The last commitment -/

theorem Picture.last_after {events : List Event} {picture : Picture} {snapshot : Snapshot}
    (h : (picture.after events).last = some snapshot) :
    (events.filterMap Event.snapshot?).getLast?.or picture.last = some snapshot := by
  induction events generalizing picture with
  | nil => exact h
  | cons event rest ih =>
    have hrest := ih h
    cases event with
    | snapshotCommitted committed =>
      change (committed :: rest.filterMap Event.snapshot?).getLast?.or picture.last = some snapshot
      rw [List.getLast?_cons]
      cases hlater : (rest.filterMap Event.snapshot?).getLast? with
      | none =>
        rw [hlater] at hrest
        exact hrest
      | some later =>
        rw [hlater] at hrest
        exact hrest
    | sessionAttached => exact Option.or_eq_some_iff.mpr (.inl (Option.or_none.symm.trans hrest))
    | sessionDetached => exact Option.or_eq_some_iff.mpr (.inl (Option.or_none.symm.trans hrest))
    | _ => exact hrest

/-! ## Interleavings -/

/-- Without a panic, whenever nobody is inside: the verdicts that were told are one for each change
that came, told by the thread of that change and naming its network; and a snapshot that is in place
is the one that was committed last. If no event is lost, these are the events that are received.
Every run of moves without a panic is such an interleaving. -/
theorem every_change_gets_one_verdict {settings : Settings} {start : Coordinator σ}
    (hstart : Coordinator.new settings = .ok start) :
    (∀ turns, .panic ∉ turns → (sceneAfter turns ⟨start, none⟩).visit = none →
      let told := emittedIn (traceOf turns ⟨start, none⟩)
      let state := (sceneAfter turns ⟨start, none⟩).coordinator.inspect.1
      (verdicts 0 0 turns ⟨start, none⟩).map Prod.snd = told.filter Event.isVerdict ∧
        ((verdicts 0 0 turns ⟨start, none⟩).map signed).Perm
          ((changesFrom 0 turns).map awaited) ∧
        ((changesFrom 0 turns).map Prod.fst).Nodup ∧
        (∀ snapshot, state.last = some snapshot →
          (told.filterMap Event.snapshot?).getLast? = some snapshot) ∧
        (lost turns ⟨start, none⟩ = [] → received turns ⟨start, none⟩ = told)) ∧
      ∀ moves, (∀ move ∈ moves, move.IsCalm) → ∃ turns, .panic ∉ turns ∧
        Plays turns ⟨start, none⟩ ⟨after moves start, none⟩ (history moves start) := by
  have hfree : start.lock ≠ .held := lock_after_new hstart []
  refine ⟨?_, fun moves hcalm => calm_run_is_interleaving hfree hcalm⟩
  intro turns hcalm hleft told state
  refine ⟨snd_verdicts 0 0 turns _, ?_, nodup_changesFrom 0 turns, ?_, received_eq hstart⟩
  · obtain ⟨last, hperm⟩ := (Scene.isSound_initial hfree).verdicts_sceneAfter hcalm 0 0
    rw [Scene.verdictsDue_of_none hleft, Scene.verdictsDue_of_none rfl, List.append_nil] at hperm
    exact hperm
  · intro snapshot hlast
    have hshown := congrArg Picture.last (Picture.after_emittedIn hstart hcalm hleft).1
    have hstate : state = (sceneAfter turns ⟨start, none⟩).coordinator.state := inspect_fst _
    rw [hstate] at hlast
    exact Option.or_none.symm.trans (Picture.last_after (hshown.trans hlast))

/-- A change comes before there is a session, one during an attachment, a malformed one, and
one while another is applied. -/
theorem every_outcome_is_a_verdict :
    let start : Coordinator String := ⟨.reject, .new 10, .initial, .free⟩
    let wifi : Change := ⟨⟨"wifi"⟩, ["1.1.1.1"]⟩
    let cell : Change := ⟨⟨"cell"⟩, ["%"]⟩
    let turns : List (Turn String) :=
      .ofChange wifi :: (List.replicate 3 .proceed ++
        .arrive (.operate (.attach "s")) :: (List.replicate 3 .proceed ++ .ofChange wifi ::
        (List.replicate 5 .proceed ++ .ofChange cell :: (List.replicate 3 .proceed ++
        .ofChange wifi :: (List.replicate 7 .proceed ++ .ofChange cell ::
        List.replicate 7 .proceed)))))
    let verdicts := verdicts 0 0 turns ⟨start, none⟩
    Coordinator.new ⟨.reject, 10⟩ = .ok start ∧ .panic ∉ turns ∧
      (sceneAfter turns ⟨start, none⟩).visit = none ∧ lost turns ⟨start, none⟩ = [] ∧
      (received turns ⟨start, none⟩).filter Event.isVerdict = verdicts.map Prod.snd ∧
      (verdicts.map signed).Perm
        [(0, some ⟨"wifi"⟩), (8, some ⟨"wifi"⟩), (14, some ⟨"cell"⟩), (18, some ⟨"wifi"⟩),
          (26, some ⟨"cell"⟩)] ∧
      verdicts.map Prod.fst = [0, 8, 14, 26, 18] := by
  intro start wifi cell turns verdicts
  have hstart : Coordinator.new ⟨.reject, 10⟩ = .ok start := rfl
  have hcalm : .panic ∉ turns := by decide +kernel
  have hleft : (sceneAfter turns ⟨start, none⟩).visit = none :=
    Option.isNone_iff_eq_none.mp (by decide +kernel)
  have hlost : lost turns ⟨start, none⟩ = [] := by decide +kernel
  obtain ⟨htold, hperm, -, -, hreceived⟩ :=
    (every_change_gets_one_verdict hstart).1 turns hcalm hleft
  rw [hreceived hlost]
  refine ⟨hstart, hcalm, hleft, hlost, htold.symm, hperm, ?_⟩
  decide +kernel

end PathKeeper.Coordinator
