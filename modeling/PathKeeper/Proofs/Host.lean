import PathKeeper.Host
import PathKeeper.Proofs.Coordinator.Run

/-!
# Hosts

A host does to its coordinator what the coordinator alone would do, and the bridge gets a message
for every call to a session on it and, if the notifier is there too, for every event. Nothing but
the log depends on what is in the log.
-/

namespace PathKeeper

set_option autoImplicit false

open Coordinator (Call Happening Interference Move Operation Outcome after callsIn history)

/-- The message that a call puts on the bridge, if it does. -/
def Bridge.message? (notifier : Notifier) : Call Engine → Option Bridge.Message
  | .command .bridge command => some (.ofCommand command)
  | .command _ _ => none
  | .notify event => if notifier = .bridge then some (.notify event) else none

namespace Bridge.Queue

/-- What a call makes of the queue. -/
def keep (notifier : Notifier) (queue : Queue) (call : Call Engine) : Queue :=
  (message? notifier call).elim queue queue.send

theorem foldl_keep_of_open (notifier : Notifier) (calls : List (Call Engine))
    (messages : List Message) :
    calls.foldl (keep notifier) ⟨true, messages⟩ =
      ⟨true, messages ++ calls.filterMap (message? notifier)⟩ := by
  induction calls generalizing messages with
  | nil => simp
  | cons call calls ih =>
    cases hmessage : message? notifier call with
    | none =>
      have hkeep : keep notifier ⟨true, messages⟩ call = ⟨true, messages⟩ := by
        simp [keep, hmessage]
      rw [List.foldl_cons, hkeep, ih, List.filterMap_cons_none hmessage]
    | some message =>
      have hkeep : keep notifier ⟨true, messages⟩ call = ⟨true, messages ++ [message]⟩ := by
        simp [keep, hmessage, send_of_open]
      rw [List.foldl_cons, hkeep, ih, List.filterMap_cons_some hmessage, List.append_assoc]
      rfl

end Bridge.Queue

namespace Host

/-! ## Absorbing -/

theorem coordinator_receive (call : Call Engine) (host : Host) :
    (host.receive call).coordinator = host.coordinator := by
  cases call with
  | command engine command =>
    cases engine with
    | recorder name => rfl
    | mute name => cases command <;> rfl
    | memory name => rfl
    | bridge => rfl
  | notify event =>
    simp only [receive]
    split <;> rfl

theorem notifier_receive (call : Call Engine) (host : Host) :
    (host.receive call).notifier = host.notifier := by
  cases call with
  | command engine command =>
    cases engine with
    | recorder name => rfl
    | mute name => cases command <;> rfl
    | memory name => rfl
    | bridge => rfl
  | notify event =>
    simp only [receive]
    split <;> rfl

theorem coordinator_absorb (trace : List (Happening Engine)) (host : Host) :
    (trace.foldl absorb host).coordinator = host.coordinator := by
  induction trace generalizing host with
  | nil => rfl
  | cons happening trace ih =>
    rw [List.foldl_cons, ih]
    cases happening with
    | noted note => rfl
    | called call => exact coordinator_receive call host
    | emitted event => rfl

theorem notifier_absorb (trace : List (Happening Engine)) (host : Host) :
    (trace.foldl absorb host).notifier = host.notifier := by
  induction trace generalizing host with
  | nil => rfl
  | cons happening trace ih =>
    rw [List.foldl_cons, ih]
    cases happening with
    | noted note => rfl
    | called call => exact notifier_receive call host
    | emitted event => rfl

theorem coordinator_adopt (outcome : Outcome Engine) (host : Host) :
    (host.adopt outcome).coordinator = outcome.coordinator := coordinator_absorb _ _

theorem notifier_adopt (outcome : Outcome Engine) (host : Host) :
    (host.adopt outcome).notifier = host.notifier := notifier_absorb _ _

theorem interference_none (notifier : Notifier) :
    Disturbance.none.interference notifier = Interference.none := by
  simp [Disturbance.none, Disturbance.interference, Interference.none]

theorem provide_eq (op : Operation Engine) (host : Host) :
    (host.provide op).coordinator = host.coordinator ∧
      (host.provide op).notifier = host.notifier ∧ (host.provide op).queue = host.queue := by
  unfold provide
  split <;> exact ⟨rfl, rfl, rfl⟩

theorem perform_eq (op : Operation Engine) (host : Host) :
    host.perform op =
      (host.provide op).adopt ((Move.operate op .none).outcome host.coordinator) := by
  rw [perform, operate, interference_none]
  rfl

/-! ## What is kept of the calls -/

/-- A part of a host that nothing but calls can change, and what they make of it. -/
structure IsKept {β : Type} (notifier : Notifier) (part : Host → β)
    (keep : β → Call Engine → β) : Prop where
  write : ∀ entries host, part (host.write entries) = part host
  coordinate : ∀ k (host : Host), part { host with coordinator := k } = part host
  provide : ∀ op host, part (host.provide op) = part host
  receive : ∀ call host, host.notifier = notifier →
    part (host.receive call) = keep (part host) call

namespace IsKept

variable {β : Type} {notifier : Notifier} {part : Host → β} {keep : β → Call Engine → β}

theorem absorb (h : IsKept notifier part keep) (trace : List (Happening Engine)) (host : Host)
    (hnotifier : host.notifier = notifier) :
    part (trace.foldl Host.absorb host) = (callsIn trace).foldl keep (part host) := by
  induction trace generalizing host with
  | nil => rfl
  | cons happening trace ih =>
    cases happening with
    | noted note =>
      have hrest := ih (host.write [note.entry]) hnotifier
      rw [h.write] at hrest
      exact hrest
    | called call =>
      have hrest := ih (host.receive call) ((notifier_receive call host).trans hnotifier)
      rw [h.receive call host hnotifier] at hrest
      exact hrest
    | emitted event => exact ih host hnotifier

theorem adopt (h : IsKept notifier part keep) (outcome : Outcome Engine) {host : Host}
    (hnotifier : host.notifier = notifier) :
    part (host.adopt outcome) = (callsIn outcome.trace).foldl keep (part host) := by
  have habsorb := h.absorb outcome.trace { host with coordinator := outcome.coordinator } hnotifier
  rw [h.coordinate outcome.coordinator host] at habsorb
  exact habsorb

theorem perform (h : IsKept notifier part keep) (op : Operation Engine) {host : Host}
    (hnotifier : host.notifier = notifier) :
    part (host.perform op) =
      (callsIn ((Move.operate op .none).outcome host.coordinator).trace).foldl keep
        (part host) := by
  rw [perform_eq, h.adopt _ ((provide_eq op host).2.1.trans hnotifier), h.provide]

end IsKept

theorem isKept_queue (notifier : Notifier) :
    IsKept notifier Host.queue (Bridge.Queue.keep notifier) where
  write _ _ := rfl
  coordinate _ _ := rfl
  provide op host := (provide_eq op host).2.2
  receive call host hnotifier := by
    cases call with
    | command engine command =>
      cases engine with
      | recorder name => rfl
      | mute name => cases command <;> rfl
      | memory name => rfl
      | bridge => rfl
    | notify event =>
      subst hnotifier
      cases hn : host.notifier <;>
        simp [receive, record, Bridge.Queue.keep, Bridge.message?, pass, write, hn]

/-! ## What is only logged -/

def withLog (log : List Log.Entry) (host : Host) : Host := { host with log := log }

/-- Adds to the log, and takes no notice of what is there. -/
def AddsToLog (f : Host → Host) : Prop :=
  ∀ host, ∃ said, ∀ log, f (host.withLog log) = (f host).withLog (log ++ said)

namespace AddsToLog

theorem of_silent {f : Host → Host} (h : ∀ log host, f (host.withLog log) = (f host).withLog log) :
    AddsToLog f := by
  intro host
  refine ⟨[], fun log => ?_⟩
  rw [List.append_nil]
  exact h log host

theorem comp {f g : Host → Host} (hg : AddsToLog g) (hf : AddsToLog f) : AddsToLog (g ∘ f) := by
  intro host
  obtain ⟨first, hfirst⟩ := hf host
  obtain ⟨later, hlater⟩ := hg (f host)
  refine ⟨first ++ later, fun log => ?_⟩
  rw [Function.comp_apply, hfirst, hlater, List.append_assoc]
  rfl

theorem receive_command (engine : Engine) (command : Command) :
    AddsToLog (Host.receive (.command engine command)) := by
  cases engine with
  | recorder name => exact of_silent fun _ _ => rfl
  | mute name => cases command <;> exact of_silent fun _ _ => rfl
  | memory name => exact of_silent fun _ _ => rfl
  | bridge => exact fun host => ⟨host.queue.commandEntries command, fun _ => rfl⟩

theorem receive_notify (event : StatusEvent) : AddsToLog (Host.receive (.notify event)) := by
  intro host
  cases hnotifier : host.notifier with
  | recorder => exact ⟨[], fun log => by simp [receive, record, withLog, hnotifier]⟩
  | bridge =>
    refine ⟨host.queue.warning (.notify event), fun log => ?_⟩
    simp [receive, pass, write, withLog, hnotifier]
  | log => exact ⟨[statusEntry event], fun log => by simp [receive, write, withLog, hnotifier]⟩

theorem absorb (happening : Happening Engine) : AddsToLog (Host.absorb · happening) := by
  match happening with
  | .noted note => exact fun _ => ⟨[note.entry], fun _ => rfl⟩
  | .called (.command engine command) => exact receive_command engine command
  | .called (.notify event) => exact receive_notify event
  | .emitted event => exact of_silent fun _ _ => rfl

theorem foldl_absorb (trace : List (Happening Engine)) :
    AddsToLog fun host => trace.foldl Host.absorb host := by
  induction trace with
  | nil => exact of_silent fun _ _ => rfl
  | cons happening trace ih => exact ih.comp (absorb happening)

theorem provide (op : Operation Engine) : AddsToLog (Host.provide op) := by
  apply of_silent
  intro log host
  unfold Host.provide
  split <;> rfl

theorem perform (op : Operation Engine) : AddsToLog (Host.perform op) := by
  intro host
  -- The coordinator, and with it the outcome, is the same whatever the log holds.
  let outcome := (Move.operate op .none).outcome host.coordinator
  have hadopt : AddsToLog (Host.adopt outcome) :=
    (foldl_absorb outcome.trace).comp (of_silent fun _ _ => rfl)
  obtain ⟨said, hsaid⟩ := hadopt.comp (provide op) host
  refine ⟨said, fun log => ?_⟩
  rw [perform_eq, perform_eq]
  exact hsaid log

end AddsToLog

/-- The same host, perhaps with more in its log. -/
def SaysMore (host plain : Host) : Prop :=
  ∃ log, plain.log.Sublist log ∧ host = plain.withLog log

namespace SaysMore

variable {host plain : Host}

theorem refl (host : Host) : host.SaysMore host := ⟨host.log, List.Sublist.refl _, rfl⟩

theorem write (h : host.SaysMore plain) (entries : List Log.Entry) :
    (host.write entries).SaysMore plain := by
  obtain ⟨log, hlog, rfl⟩ := h
  exact ⟨log ++ entries, hlog.trans (List.sublist_append_left log entries), rfl⟩

theorem perform (h : host.SaysMore plain) (op : Operation Engine) :
    (host.perform op).SaysMore (plain.perform op) := by
  obtain ⟨log, hlog, rfl⟩ := h
  obtain ⟨said, hsaid⟩ := AddsToLog.perform op plain
  have hplain : (plain.perform op).log = plain.log ++ said := congrArg Host.log (hsaid plain.log)
  refine ⟨log ++ said, ?_, hsaid log⟩
  rw [hplain]
  exact hlog.append (List.Sublist.refl said)

end SaysMore

/-! ## Runs -/

/-- A host that has come from the start by some moves of its coordinator. -/
structure Tracks (start : Coordinator Engine) (notifier : Notifier) (moves : List (Move Engine))
    (host : Host) : Prop where
  coordinator_eq : host.coordinator = after moves start
  notifier_eq : host.notifier = notifier
  queue_eq : host.queue =
    ⟨true, (callsIn (history moves start)).filterMap (Bridge.message? notifier)⟩

variable {start : Coordinator Engine} {notifier : Notifier} {moves : List (Move Engine)}
  {host : Host}

theorem Tracks.write (h : Tracks start notifier moves host) (entries : List Log.Entry) :
    Tracks start notifier moves (host.write entries) :=
  ⟨h.coordinator_eq, h.notifier_eq, h.queue_eq⟩

theorem Tracks.perform (h : Tracks start notifier moves host) (op : Operation Engine) :
    Tracks start notifier (moves ++ [.operate op .none]) (host.perform op) := by
  obtain ⟨hcoordinator, hnotifier, hqueue⟩ := h
  constructor
  · rw [perform_eq, coordinator_adopt, Coordinator.after_append, hcoordinator]
    rfl
  · rw [perform_eq, notifier_adopt, (provide_eq op host).2.1, hnotifier]
  · rw [(isKept_queue notifier).perform op hnotifier, hqueue, Bridge.Queue.foldl_keep_of_open,
      hcoordinator, Coordinator.history_append, Coordinator.callsIn_append,
      List.filterMap_append]
    simp

theorem tracks_new {settings : Settings} (h : Coordinator.new settings = .ok start)
    (notifier : Notifier) :
    ∃ host, Host.new settings notifier = .ok host ∧ Tracks start notifier [] host := by
  refine ⟨⟨start, notifier, [], [], .empty, []⟩, ?_, ⟨rfl, rfl, rfl⟩⟩
  rw [Host.new, h]

end Host

end PathKeeper
