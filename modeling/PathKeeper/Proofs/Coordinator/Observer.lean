import PathKeeper.Proofs.Coordinator.Interleaving

/-!
# The observer

Whoever listens to the events takes no part in what happens. Calls, states and the lock are the same
for channels of any size, wherever events are taken and whenever the observer goes away. An event
that is told is received or lost; as long as none is taken, the first ones fill the channel.
-/

namespace PathKeeper.Coordinator

set_option autoImplicit false

variable {σ : Type}

/-! ## Events that are told -/

def Happening.emitted? : Happening σ → Option Event
  | .emitted event => some event
  | _ => none

def Happening.isLoss : Happening σ → Bool
  | .noted .eventLost => true
  | _ => false

/-- All events that are told, refusals among them. -/
def emittedIn (trace : List (Happening σ)) : List Event := trace.filterMap Happening.emitted?

/-- What is seen apart from the remarks that events were lost. -/
def apartFromLosses (trace : List (Happening σ)) : List (Happening σ) :=
  trace.filter fun happening => !happening.isLoss

@[simp] theorem emittedIn_append (front back : List (Happening σ)) :
    emittedIn (front ++ back) = emittedIn front ++ emittedIn back := List.filterMap_append

theorem apartFromLosses_append (front back : List (Happening σ)) :
    apartFromLosses (front ++ back) = apartFromLosses front ++ apartFromLosses back :=
  List.filter_append front back

theorem visibleIn_apartFromLosses (trace : List (Happening σ)) :
    visibleIn (apartFromLosses trace) = visibleIn trace := by
  unfold visibleIn apartFromLosses
  rw [List.filter_filter]
  apply List.filter_congr
  intro happening _
  cases happening with
  | noted note => rfl
  | called call => rfl
  | emitted event => rfl

/-- Calls and events can be read off what is seen apart from losses. -/
theorem filterMap_eq_of_apartFromLosses {β : Type} {f : Happening σ → Option β}
    (hf : ∀ note, f (.noted note) = none) {trace trace' : List (Happening σ)}
    (h : apartFromLosses trace = apartFromLosses trace') :
    trace.filterMap f = trace'.filterMap f := by
  rw [← filterMap_visibleIn hf trace, ← filterMap_visibleIn hf trace',
    ← visibleIn_apartFromLosses trace, ← visibleIn_apartFromLosses trace', h]

theorem emittedIn_emission (event : Event) (k : Coordinator σ) :
    emittedIn (k.emission event) = [event] := by
  unfold emission
  split <;> rfl

theorem apartFromLosses_emission (event : Event) (k : Coordinator σ) :
    apartFromLosses (k.emission event) = [.emitted event] := by
  unfold emission
  split <;> rfl

theorem emittedIn_refuse (change : Change) (k : Coordinator σ) :
    emittedIn (k.refuse change).trace = [.changeDropped change.identity] :=
  emittedIn_emission (.changeDropped change.identity) k

theorem emittedIn_recovery (k : Coordinator σ) : emittedIn k.recovery = [] := by
  unfold recovery
  split <;> rfl

/-! ## What becomes of events -/

/-- Of some events these are received, in their order, and the others are lost. -/
structure Shared (events received lost : List Event) : Prop where
  sublist : received.Sublist events
  perm : (received ++ lost).Perm events

theorem Shared.eq_of_nil {events received : List Event} (h : Shared events received []) :
    received = events := by
  apply h.sublist.eq_of_length
  rw [← h.perm.length_eq, List.append_nil]

/-- Events that wait are taken later, in front of those that come after them. -/
theorem Shared.append {events later taken waiting received lost lost' : List Event}
    (h : Shared events (taken ++ waiting) lost) (h' : Shared (waiting ++ later) received lost') :
    Shared (events ++ later) (taken ++ received) (lost ++ lost') where
  sublist := by
    have hlater := h'.sublist.append_left taken
    rw [← List.append_assoc] at hlater
    exact hlater.trans (h.sublist.append_right later)
  perm := by
    rw [List.perm_iff_count]
    intro event
    have hfirst := h.perm.count_eq event
    have hthen := h'.perm.count_eq event
    simp only [List.count_append] at hfirst hthen ⊢
    omega

namespace Channel

def offerAll (events : List Event) (channel : Channel) : Channel :=
  events.foldl (fun channel event => channel.offer event) channel

/-- The events that find no room. -/
def losses : List Event → Channel → List Event
  | [], _ => []
  | event :: rest, channel =>
    (if channel.isOpen && !channel.isFull then [] else [event]) ++ losses rest (channel.offer event)

@[simp] theorem offerAll_cons (event : Event) (rest : List Event) (channel : Channel) :
    channel.offerAll (event :: rest) = (channel.offer event).offerAll rest := rfl

theorem offerAll_append (front back : List Event) (channel : Channel) :
    channel.offerAll (front ++ back) = (channel.offerAll front).offerAll back := List.foldl_append

theorem pending_offer (event : Event) (channel : Channel) :
    (channel.offer event).pending =
      channel.pending ++ if channel.isOpen && !channel.isFull then [event] else [] := by
  unfold offer
  split
  · rfl
  · exact (List.append_nil _).symm

theorem shared_offer (event : Event) (channel : Channel) :
    Shared (channel.pending ++ [event]) (channel.offer event).pending
      (if channel.isOpen && !channel.isFull then [] else [event]) := by
  rw [pending_offer]
  split
  · exact ⟨.refl _, by rw [List.append_nil]⟩
  · rw [List.append_nil]
    exact ⟨List.sublist_append_left _ _, .refl _⟩

theorem shared_offerAll (events : List Event) (channel : Channel) :
    Shared (channel.pending ++ events) (channel.offerAll events).pending
      (channel.losses events) := by
  induction events generalizing channel with
  | nil =>
    rw [List.append_nil]
    exact ⟨.refl _, by rw [losses, List.append_nil]; rfl⟩
  | cons event rest ih =>
    have hone : Shared (channel.pending ++ [event]) ([] ++ (channel.offer event).pending) _ :=
      channel.shared_offer event
    have hall := hone.append (ih (channel.offer event))
    rw [List.append_assoc] at hall
    exact hall

theorem drain_append (count : Option Nat) (channel : Channel) :
    (channel.drain count).1 ++ (channel.drain count).2.pending = channel.pending := by
  cases count with
  | none => exact List.append_nil _
  | some n => exact List.take_append_drop n _

/-- An open channel holds the first events up to its capacity. -/
theorem pending_offerAll {channel : Channel} (hopen : channel.isOpen = true)
    (hroom : channel.pending.length ≤ channel.capacity) (events : List Event) :
    (channel.offerAll events).pending = (channel.pending ++ events).take channel.capacity := by
  induction events generalizing channel with
  | nil =>
    rw [List.append_nil]
    exact (List.take_of_length_le hroom).symm
  | cons event rest ih =>
    have hpending := channel.pending_offer event
    rw [hopen, Bool.true_and] at hpending
    have hstays := (isOpen_offer event channel).trans hopen
    have hrest := @ih (channel.offer event) hstays
    rw [capacity_offer] at hrest
    rw [offerAll_cons]
    by_cases hfull : channel.capacity ≤ channel.pending.length
    · -- nothing more fits in
      have hisFull : channel.isFull = true := by simp [isFull, hopen, hfull]
      rw [hisFull, Bool.not_true, if_neg Bool.false_ne_true, List.append_nil] at hpending
      rw [hrest (hpending ▸ hroom), hpending, List.take_append_of_le_length hfull,
        List.take_append_of_le_length hfull]
    · have hnotFull : channel.isFull = false := by simp [isFull, hopen, hfull]
      rw [hnotFull, Bool.not_false, if_pos rfl] at hpending
      rw [hrest (by rw [hpending, List.length_append, List.length_singleton]; omega), hpending,
        List.append_assoc, List.singleton_append]

end Channel

/-! ## Turns of the observer -/

namespace Turn

def isObserving : Turn σ → Bool
  | .drain _ => true
  | .closeEvents => true
  | _ => false

/-- What the observer takes. -/
def taking (scene : Scene σ) : Turn σ → List Event
  | .drain count => (scene.coordinator.drain count).1
  | _ => []

/-- What the observer will not get: events without room, and those that wait when it goes away. -/
def losing (scene : Scene σ) : Turn σ → List Event
  | .closeEvents => scene.coordinator.channel.pending
  | turn => scene.coordinator.channel.losses (emittedIn (turn.step scene).2)

end Turn

/-- The turns of all but the observer. -/
def acting (turns : List (Turn σ)) : List (Turn σ) := turns.filter fun turn => !turn.isObserving

def taken : List (Turn σ) → Scene σ → List Event
  | [], _ => []
  | turn :: rest, scene => turn.taking scene ++ taken rest (turn.step scene).1

def lost : List (Turn σ) → Scene σ → List Event
  | [], _ => []
  | turn :: rest, scene => turn.losing scene ++ lost rest (turn.step scene).1

def Scene.waiting (scene : Scene σ) : List Event := scene.coordinator.channel.pending

/-- What the observer has taken, and what is there for it to take. -/
def received (turns : List (Turn σ)) (scene : Scene σ) : List Event :=
  taken turns scene ++ (sceneAfter turns scene).waiting

/-! ## Another channel -/

def withChannel (channel : Channel) (k : Coordinator σ) : Coordinator σ :=
  { k with channel := channel }

def Scene.withChannel (channel : Channel) (scene : Scene σ) : Scene σ :=
  ⟨scene.coordinator.withChannel channel, scene.visit⟩

/-- The same step, but for a channel that was another one before and heard the same. -/
structure Unheeded (channel : Channel) (here there : Scene σ × List (Happening σ)) : Prop where
  scene_eq : there.1 = here.1.withChannel (channel.offerAll (emittedIn here.2))
  trace_eq : apartFromLosses there.2 = apartFromLosses here.2

theorem Scene.unheeded_silent (channel : Channel) (scene : Scene σ) {trace : List (Happening σ)}
    (h : emittedIn trace = []) :
    Unheeded channel (scene, trace) (scene.withChannel channel, trace) where
  scene_eq := by rw [h]; rfl
  trace_eq := rfl

theorem unheeded_refuse (channel : Channel) (change : Change) (k : Coordinator σ)
    (visit : Option (Visit σ)) :
    Unheeded channel (⟨(k.refuse change).coordinator, visit⟩, (k.refuse change).trace)
      (⟨((k.withChannel channel).refuse change).coordinator, visit⟩,
        ((k.withChannel channel).refuse change).trace) where
  scene_eq := by rw [emittedIn_refuse]; rfl
  trace_eq := congrArg (_ :: ·)
    ((apartFromLosses_emission _ _).trans (apartFromLosses_emission _ _).symm)

theorem unheeded_perform (channel : Channel) (action : Action σ) (k : Coordinator σ)
    (visit : Option (Visit σ)) :
    Unheeded channel
      (⟨(perform .none [action] k).coordinator, visit⟩, (perform .none [action] k).trace)
      (⟨(perform .none [action] (k.withChannel channel)).coordinator, visit⟩,
        (perform .none [action] (k.withChannel channel)).trace) := by
  cases action with
  | note note => exact ⟨rfl, rfl⟩
  | write state => exact ⟨rfl, rfl⟩
  | call call => exact ⟨rfl, rfl⟩
  | emit event =>
    have htrace : ∀ k : Coordinator σ, (perform .none [.emit event] k).trace = k.emission event :=
      fun k => List.append_nil _
    have htold : emittedIn (perform .none [.emit event] k).trace = [event] := by
      rw [htrace, emittedIn_emission]
    constructor
    · rw [htold]
      rfl
    · rw [htrace, htrace, apartFromLosses_emission, apartFromLosses_emission]

theorem Scene.unheeded_arrive (channel : Channel) (errand : Errand σ) (scene : Scene σ) :
    Unheeded channel (scene.arrive errand) ((scene.withChannel channel).arrive errand) := by
  obtain ⟨k, visit⟩ := scene
  change Unheeded channel _ (arrive errand ⟨k.withChannel channel, visit⟩)
  by_cases hlock : k.lock = .held
  · have hlock' : (k.withChannel channel).lock = .held := hlock
    have harrive : ∀ k : Coordinator σ, k.lock = .held → arrive errand ⟨k, visit⟩ =
        (⟨(errand.waiting k).coordinator, visit⟩, (errand.waiting k).trace) := by
      intro k hlock
      simp [arrive, hlock]
    rw [harrive k hlock, harrive _ hlock']
    cases errand with
    | look => exact unheeded_silent channel ⟨k, visit⟩ rfl
    | operate op =>
      by_cases hop : ∀ change, op ≠ .change change
      · rw [Errand.waiting, Errand.waiting, operate_of_held hlock .none hop,
          operate_of_held hlock' .none hop]
        exact unheeded_silent channel ⟨k, visit⟩ rfl
      · obtain ⟨change, rfl⟩ : ∃ change, op = .change change := by simpa using hop
        rw [Errand.waiting, Errand.waiting, operate_change_of_held hlock .none change,
          operate_change_of_held hlock' .none change]
        exact unheeded_refuse channel change k visit
  · have hlock' : (k.withChannel channel).lock ≠ .held := hlock
    rw [arrive_of_not_held hlock, arrive_of_not_held hlock']
    exact unheeded_silent channel _ (emittedIn_recovery k)

/-- Who takes a turn does not heed the channel. -/
theorem Turn.unheeded_step {turn : Turn σ} (h : turn.isObserving = false) (channel : Channel)
    (scene : Scene σ) :
    Unheeded channel (turn.step scene) (turn.step (scene.withChannel channel)) := by
  cases turn with
  | arrive errand => exact scene.unheeded_arrive channel errand
  | proceed =>
    obtain ⟨k, visit⟩ := scene
    match visit with
    | none => exact Scene.unheeded_silent channel ⟨k, none⟩ rfl
    | some ⟨_, [], _⟩ => exact Scene.unheeded_silent channel ⟨{ k with lock := .free }, none⟩ rfl
    | some ⟨errand, action :: rest, _⟩ =>
      exact unheeded_perform channel action k (some ⟨errand, rest, action.call?.isSome⟩)
  | panic =>
    obtain ⟨k, visit⟩ := scene
    match visit with
    | none => exact Scene.unheeded_silent channel ⟨k, none⟩ rfl
    | some ⟨_, _, true⟩ =>
      exact Scene.unheeded_silent channel ⟨{ k with lock := .poisoned }, none⟩ rfl
    | some ⟨errand, rest, false⟩ =>
      exact Scene.unheeded_silent channel ⟨k, some ⟨errand, rest, false⟩⟩ rfl
  | drain count => cases h
  | closeEvents => cases h

/-- What the observer does is heard by nobody. -/
theorem Turn.step_of_isObserving {turn : Turn σ} (h : turn.isObserving = true) (scene : Scene σ) :
    ∃ channel, turn.step scene = (scene.withChannel channel, []) := by
  cases turn with
  | drain count => exact ⟨_, rfl⟩
  | closeEvents => exact ⟨_, rfl⟩
  | arrive errand => cases h
  | proceed => cases h
  | panic => cases h

theorem Turn.channel_step {turn : Turn σ} (h : turn.isObserving = false) (scene : Scene σ) :
    (turn.step scene).1.coordinator.channel =
      scene.coordinator.channel.offerAll (emittedIn (turn.step scene).2) := by
  -- put the channel that is there into its place
  have hself := (turn.unheeded_step h scene.coordinator.channel scene).scene_eq
  exact congrArg (fun scene => scene.coordinator.channel) hself

/-! ## Runs -/

/-- An observer can be left out, and the channel replaced. -/
theorem sceneAfter_withChannel (turns : List (Turn σ)) (channel : Channel) (scene : Scene σ) :
    ∃ channel',
      sceneAfter turns (scene.withChannel channel) =
        (sceneAfter (acting turns) scene).withChannel channel' ∧
      apartFromLosses (traceOf turns (scene.withChannel channel)) =
        apartFromLosses (traceOf (acting turns) scene) := by
  induction turns generalizing channel scene with
  | nil => exact ⟨channel, rfl, rfl⟩
  | cons turn rest ih =>
    cases hturn : turn.isObserving with
    | true =>
      have hacting : acting (turn :: rest) = acting rest :=
        List.filter_cons_of_neg (by simp [hturn])
      obtain ⟨next, hstep⟩ := Turn.step_of_isObserving hturn (scene.withChannel channel)
      rw [sceneAfter_cons, traceOf, hstep, hacting]
      exact ih next scene
    | false =>
      have hacting : acting (turn :: rest) = turn :: acting rest :=
        List.filter_cons_of_pos (by simp [hturn])
      obtain ⟨hscene, htrace⟩ := turn.unheeded_step hturn channel scene
      rw [sceneAfter_cons, traceOf, hscene, hacting, sceneAfter_cons, traceOf,
        apartFromLosses_append, apartFromLosses_append, htrace]
      obtain ⟨last, hlast, hlater⟩ := ih _ (turn.step scene).1
      exact ⟨last, hlast, congrArg _ hlater⟩

theorem channel_sceneAfter {turns : List (Turn σ)} (h : ∀ turn ∈ turns, turn.isObserving = false)
    (scene : Scene σ) :
    (sceneAfter turns scene).coordinator.channel =
      scene.coordinator.channel.offerAll (emittedIn (traceOf turns scene)) := by
  induction turns generalizing scene with
  | nil => rfl
  | cons turn rest ih =>
    obtain ⟨hturn, hrest⟩ := List.forall_mem_cons.mp h
    rw [sceneAfter_cons, ih hrest, turn.channel_step hturn, traceOf, emittedIn_append,
      Channel.offerAll_append]

theorem Turn.shared_step (turn : Turn σ) (scene : Scene σ) :
    Shared (scene.waiting ++ emittedIn (turn.step scene).2)
      (turn.taking scene ++ (turn.step scene).1.waiting) (turn.losing scene) := by
  cases hturn : turn.isObserving with
  | false =>
    have hwaiting : (turn.step scene).1.waiting =
        (scene.coordinator.channel.offerAll (emittedIn (turn.step scene).2)).pending :=
      congrArg Channel.pending (turn.channel_step hturn scene)
    rw [hwaiting]
    cases turn with
    | arrive errand => exact Channel.shared_offerAll _ _
    | proceed => exact Channel.shared_offerAll _ _
    | panic => exact Channel.shared_offerAll _ _
    | drain count => cases hturn
    | closeEvents => cases hturn
  | true =>
    cases turn with
    | drain count =>
      have hall : (Turn.drain count).taking scene ++ ((Turn.drain count).step scene).1.waiting =
          scene.waiting := Channel.drain_append count _
      rw [hall]
      change Shared (scene.waiting ++ []) scene.waiting []
      rw [List.append_nil]
      exact ⟨.refl _, by rw [List.append_nil]⟩
    | closeEvents =>
      change Shared (scene.waiting ++ []) [] scene.waiting
      rw [List.append_nil]
      exact ⟨List.nil_sublist _, .refl _⟩
    | arrive errand => cases hturn
    | proceed => cases hturn
    | panic => cases hturn

theorem shared_received (turns : List (Turn σ)) (scene : Scene σ) :
    Shared (scene.waiting ++ emittedIn (traceOf turns scene)) (received turns scene)
      (lost turns scene) := by
  induction turns generalizing scene with
  | nil =>
    have hnil : scene.waiting ++ emittedIn (traceOf [] scene) = scene.waiting := List.append_nil _
    rw [hnil]
    exact ⟨.refl _, by rw [lost, List.append_nil]; rfl⟩
  | cons turn rest ih =>
    have hall := (turn.shared_step scene).append (ih (turn.step scene).1)
    rw [List.append_assoc, ← emittedIn_append, received, ← List.append_assoc] at hall
    exact hall

theorem received_eq {settings : Settings} {start : Coordinator σ}
    (hstart : Coordinator.new settings = .ok start) {turns : List (Turn σ)}
    (hlost : lost turns ⟨start, none⟩ = []) :
    received turns ⟨start, none⟩ = emittedIn (traceOf turns ⟨start, none⟩) := by
  have hshared := shared_received turns ⟨start, none⟩
  have hnothing : Scene.waiting (⟨start, none⟩ : Scene σ) = [] := by
    rw [new_eq hstart]
    rfl
  rw [hlost, hnothing] at hshared
  exact hshared.eq_of_nil

/-- Two coordinators with the same policy and room for events of any size, and any two runs with the
same turns of all but the observer, contention and panics included. The calls are the same, and so
are the state, the lock and who is inside, at the end and hence at any moment before. What the
observer takes is told in that order, and every event that is told is received or lost. If it never
takes any, the first ones are there, as many as there is room for. -/
theorem observer_takes_no_part (policy : Policy) {capacity capacity' : Nat}
    (hleast : 1 ≤ capacity) (hmost : capacity ≤ 2305843009213693951) (hleast' : 1 ≤ capacity')
    (hmost' : capacity' ≤ 2305843009213693951) :
    ∃ start start' : Coordinator σ, Coordinator.new ⟨policy, capacity⟩ = .ok start ∧
      Coordinator.new ⟨policy, capacity'⟩ = .ok start' ∧
      (∀ turns turns', acting turns = acting turns' →
        let scene := sceneAfter turns ⟨start, none⟩
        let scene' := sceneAfter turns' ⟨start', none⟩
        callsIn (traceOf turns ⟨start, none⟩) = callsIn (traceOf turns' ⟨start', none⟩) ∧
          emittedIn (traceOf turns ⟨start, none⟩) = emittedIn (traceOf turns' ⟨start', none⟩) ∧
          scene.coordinator.state = scene'.coordinator.state ∧
          scene.coordinator.lock = scene'.coordinator.lock ∧ scene.visit = scene'.visit) ∧
      (∀ turns,
        let told := emittedIn (traceOf turns ⟨start, none⟩)
        (taken turns ⟨start, none⟩).Sublist told ∧
          (received turns ⟨start, none⟩).Sublist told ∧
          (received turns ⟨start, none⟩ ++ lost turns ⟨start, none⟩).Perm told) ∧
      ∀ turns, (∀ turn ∈ turns, turn.isObserving = false) →
        let told := emittedIn (traceOf turns ⟨start, none⟩)
        (sceneAfter turns ⟨start, none⟩).waiting = told.take (min capacity told.length) := by
  refine ⟨_, _, new_of_capacity policy hleast hmost, new_of_capacity policy hleast' hmost',
    ?_, ?_, ?_⟩
  · intro turns turns' hacting scene scene'
    -- both runs are compared with the one that has no observer
    obtain ⟨channel, hscene, htrace⟩ := sceneAfter_withChannel turns (.new capacity)
      ⟨⟨policy, .new capacity, .initial, .free⟩, none⟩
    obtain ⟨channel', hscene', htrace'⟩ := sceneAfter_withChannel turns' (.new capacity')
      ⟨⟨policy, .new capacity, .initial, .free⟩, none⟩
    rw [← hacting] at hscene' htrace'
    have hseen := htrace.trans htrace'.symm
    refine ⟨filterMap_eq_of_apartFromLosses (fun _ => rfl) hseen,
      filterMap_eq_of_apartFromLosses (fun _ => rfl) hseen, ?_, ?_, ?_⟩
    · exact (congrArg (fun scene => scene.coordinator.state) hscene).trans
        (congrArg (fun scene => scene.coordinator.state) hscene').symm
    · exact (congrArg (fun scene => scene.coordinator.lock) hscene).trans
        (congrArg (fun scene => scene.coordinator.lock) hscene').symm
    · exact (congrArg Scene.visit hscene).trans (congrArg Scene.visit hscene').symm
  · intro turns told
    obtain ⟨hsublist, hperm⟩ := shared_received turns
      ⟨⟨policy, .new capacity, .initial, .free⟩, none⟩
    exact ⟨(List.sublist_append_left _ _).trans hsublist, hsublist, hperm⟩
  · intro turns hacting told
    have hchannel := channel_sceneAfter hacting
      (⟨⟨policy, .new capacity, .initial, .free⟩, none⟩ : Scene σ)
    rw [Scene.waiting, hchannel, Channel.pending_offerAll rfl (Nat.zero_le _),
      ← List.take_eq_take_min]
    rfl

/-- One observer has room for a single event, takes what is there in the midst of an attachment and
goes away; another has room for three and takes nothing. A change meets the attachment, and a later
one panics. -/
theorem two_observers_make_no_difference :
    let wifi : Change := ⟨⟨"wifi"⟩, ["1.1.1.1"]⟩
    let start : Coordinator String := ⟨.skip, .new 1, .initial, .free⟩
    let start' : Coordinator String := ⟨.skip, .new 3, .initial, .free⟩
    let attaching : List (Turn String) :=
      .arrive (.operate (.attach "s")) :: (List.replicate 3 .proceed ++ [.ofChange wifi])
    let changing : List (Turn String) :=
      List.replicate 5 .proceed ++ .ofChange wifi :: (List.replicate 7 .proceed ++ [.panic])
    let turns := attaching ++ .drain none :: (changing ++ [.closeEvents])
    let turns' := attaching ++ changing
    Coordinator.new ⟨.skip, 1⟩ = .ok start ∧ Coordinator.new ⟨.skip, 3⟩ = .ok start' ∧
      acting turns = acting turns' ∧
      callsIn (traceOf turns ⟨start, none⟩) = callsIn (traceOf turns' ⟨start', none⟩) ∧
      (sceneAfter turns ⟨start, none⟩).coordinator.state = ⟨.up, some "s", none⟩ ∧
      (sceneAfter turns' ⟨start', none⟩).coordinator.state = ⟨.up, some "s", none⟩ ∧
      (sceneAfter turns' ⟨start', none⟩).coordinator.lock = .poisoned := by
  intro wifi start start' attaching changing turns turns'
  obtain ⟨first, second, hfirst, hsecond, hsame, -, -⟩ :=
    @observer_takes_no_part String .skip 1 3 (by decide) (by decide) (by decide) (by decide)
  obtain rfl : first = start := new_eq hfirst
  obtain rfl : second = start' := new_eq hsecond
  have hacting : acting turns = acting turns' := by decide +kernel
  obtain ⟨hcalls, -, hstate, hlock, -⟩ := hsame turns turns' hacting
  have hleft : (sceneAfter turns ⟨start, none⟩).coordinator.state = ⟨.up, some "s", none⟩ := by
    decide +kernel
  have hpoisoned : (sceneAfter turns ⟨start, none⟩).coordinator.lock = .poisoned := by
    decide +kernel
  exact ⟨hfirst, hsecond, hacting, hcalls, hleft, hstate.symm.trans hleft,
    hlock.symm.trans hpoisoned⟩

end PathKeeper.Coordinator
