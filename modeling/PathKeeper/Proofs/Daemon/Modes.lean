import PathKeeper.Proofs.Daemon.Output

/-!
# The two modes of the daemon

With notifications in the log the engine gets the same lines as with notifications on the bridge,
but for the notifications. Session and notifier share one queue, so the two runs are compared
message by message.
-/

namespace PathKeeper

set_option autoImplicit false

open Bridge (Message Sink message?)
open Coordinator (Call callsIn history Move Operation)
open Source (Arrival)

/-! ## Lines without notifications -/

theorem Json.head_isPrefix_writeObject (member : String × List Char)
    (members : List (String × List Char)) :
    '\x7b' :: writeMember member <+: writeObject (member :: members) := by
  rw [writeObject, List.map_cons, List.cons_prefix_cons]
  cases members with
  | nil => exact ⟨rfl, List.prefix_append _ _⟩
  | cons other rest =>
    rw [List.map_cons, Text.joined_cons_cons, List.append_assoc, List.append_assoc]
    exact ⟨rfl, List.prefix_append _ _⟩

namespace Bridge.Message

/-- How a line of a type begins. -/
def Kind.head (kind : Kind) : List Char := '\x7b' :: Json.writeMember (tag, Json.quote kind.name)

example : Kind.notify.head = "\x7b\"type\":\"notify\"".toList := by decide

theorem isPrefixOf_head (kind : Kind) (rest : List Char) :
    Kind.notify.head.isPrefixOf (kind.head ++ rest) = decide (kind = .notify) := by
  cases kind with
  | setServers => rfl
  | reconnect => rfl
  | setStatus => rfl
  | notify => exact List.isPrefixOf_iff_prefix.mpr (List.prefix_append _ _)

def isNotification (message : Message) : Bool := message.kind = .notify

theorem isPrefixOf_write (message : Message) :
    Kind.notify.head.isPrefixOf message.write = message.isNotification := by
  obtain ⟨rest, hrest⟩ : message.kind.head <+: message.write :=
    Json.head_isPrefix_writeObject _ message.body
  rw [← hrest, isPrefixOf_head]
  rfl

/-- A text without its lines of the type of notifications. -/
def withoutNotifications (text : List Char) : List Char :=
  Text.joined ['\n']
    ((Text.pieces '\n' text).filter fun line => !Kind.notify.head.isPrefixOf line)

theorem joined_map_write (messages : List Message) :
    Text.joined ['\n'] (messages.map write ++ [[]]) = messages.flatMap line := by
  induction messages with
  | nil => rfl
  | cons message rest ih =>
    have hcons : Text.joined ['\n'] (message.write :: (rest.map write ++ [[]])) =
        message.write ++ ['\n'] ++ Text.joined ['\n'] (rest.map write ++ [[]]) := by
      cases rest <;> rfl
    rw [List.map_cons, List.cons_append, hcons, ih]
    rfl

theorem withoutNotifications_flatMap_line (messages : List Message) :
    withoutNotifications (messages.flatMap line) =
      (messages.filter fun message => !message.isNotification).flatMap line := by
  have hkept : (messages.map write ++ [[]]).filter
        (fun line => !Kind.notify.head.isPrefixOf line) =
      (messages.filter fun message => !message.isNotification).map write ++ [[]] := by
    rw [List.filter_append, List.filter_map]
    simp only [Function.comp_def, isPrefixOf_write]
    rfl
  rw [withoutNotifications, pieces_flatMap_line, hkept, joined_map_write]

/-- What a call puts on the bridge without the notifier is what it puts there with it, unless that
is a notification. -/
theorem filterMap_message?_log (calls : List (Call Engine)) :
    calls.filterMap (message? .log) =
      (calls.filterMap (message? .bridge)).filter fun message => !message.isNotification := by
  rw [List.filter_filterMap]
  apply List.filterMap_congr
  intro call _
  cases call with
  | command engine command => cases engine <;> cases command <;> rfl
  | notify event => rfl

end Bridge.Message

/-! ## Twins -/

/-- A host with its notifier on the bridge and one with its notifier in the log that have gone
through the same moves. -/
def Host.AreTwins (loud quiet : Host) : Prop :=
  ∃ start moves, Host.Tracks start .bridge moves loud ∧ Host.Tracks start .log moves quiet

namespace Host.AreTwins

variable {loud quiet : Host}

theorem write (h : AreTwins loud quiet) (entries : List Log.Entry) :
    AreTwins (loud.write entries) (quiet.write entries) := by
  obtain ⟨start, moves, hloud, hquiet⟩ := h
  exact ⟨start, moves, hloud.write entries, hquiet.write entries⟩

theorem perform (h : AreTwins loud quiet) (op : Operation Engine) :
    AreTwins (loud.perform op) (quiet.perform op) := by
  obtain ⟨start, moves, hloud, hquiet⟩ := h
  exact ⟨start, _, hloud.perform op, hquiet.perform op⟩

theorem messages_eq (h : AreTwins loud quiet) :
    quiet.queue.messages =
      loud.queue.messages.filter fun message => !message.isNotification := by
  obtain ⟨start, moves, hloud, hquiet⟩ := h
  rw [hloud.queue_eq, hquiet.queue_eq]
  exact Message.filterMap_message?_log _

end Host.AreTwins

namespace Monitor

open Host (AreTwins)

variable {loud quiet : Host}

theorem areTwins_start (h : AreTwins loud quiet) (current : Option Change) :
    AreTwins (start current loud) (start current quiet) := by
  cases current with
  | none => exact h.write _
  | some change => exact (h.write _).perform _

theorem areTwins_step (h : AreTwins loud quiet) (arrival : Arrival) :
    AreTwins (step arrival loud) (step arrival quiet) := by
  have hwrite := h.write arrival.entries
  unfold step
  cases arrival.change with
  | none => exact hwrite
  | some change => exact hwrite.perform (.change change)

theorem areTwins_loop (h : AreTwins loud quiet) (noticed : Nat → Bool) (closes : Bool) (i : Nat)
    (stream : List Arrival) :
    (loop noticed closes i stream quiet).1 = (loop noticed closes i stream loud).1 ∧
      AreTwins (loop noticed closes i stream loud).2 (loop noticed closes i stream quiet).2 := by
  induction stream generalizing i loud quiet with
  | nil =>
    unfold loop
    split <;> exact ⟨rfl, h⟩
  | cons arrival rest ih =>
    have hrest := ih (areTwins_step h arrival) (i + 1)
    unfold loop
    split
    · exact ⟨rfl, h⟩
    · exact hrest

theorem areTwins_run (h : AreTwins loud quiet) (request : Request) (source : PathSource) :
    (run request source quiet).1 = (run request source loud).1 ∧
      AreTwins (run request source loud).2 (run request source quiet).2 := by
  unfold run
  cases source.current with
  | error failure => exact ⟨rfl, h⟩
  | ok current =>
    obtain ⟨hreason, htwins⟩ :=
      areTwins_loop (areTwins_start h current) request.noticed source.closes 0 source.stream
    refine ⟨rfl, ?_⟩
    simp only [hreason]
    exact htwins.write _

end Monitor

namespace Daemon.Pipeline

theorem areTwins_stop {loud quiet : Host} (h : Host.AreTwins loud quiet) :
    Host.AreTwins (stop loud) (stop quiet) := (h.write _).perform .detach

/-- The mode has no say in whether a pipeline starts. -/
theorem start_modes (options : Options) :
    (∃ fault, ∀ mode, start { options with notify := mode } = .error fault) ∨
      ∃ loud quiet, start { options with notify := .bridge } = .ok loud ∧
        start { options with notify := .log } = .ok quiet ∧ Host.AreTwins loud quiet := by
  cases hnew : (Coordinator.new options.settings : Except _ (Coordinator Engine)) with
  | error fault =>
    refine .inl ⟨fault, fun mode => ?_⟩
    have hrefused : (Coordinator.new { options with notify := mode }.settings :
        Except _ (Coordinator Engine)) = .error fault := hnew
    rw [start, Host.new, hrefused]
  | ok k =>
    have hbridge : Coordinator.new { options with notify := .bridge }.settings = .ok k := hnew
    have hlog : Coordinator.new { options with notify := .log }.settings = .ok k := hnew
    obtain ⟨loud, hloud, hloudTracks⟩ := tracks_start hbridge
    obtain ⟨quiet, hquiet, hquietTracks⟩ := tracks_start hlog
    exact .inr ⟨loud, quiet, hloud, hquiet, k, _, hloudTracks, hquietTracks⟩

theorem run_of_refused {options : Options} {fault : Coordinator.StartFault}
    (h : start options = .error fault) (request : Monitor.Request) (source : Monitor.PathSource)
    (sink : Sink) :
    run options request source sink = ⟨.error (.coordinator fault), [], []⟩ := by
  simp only [run, h]

theorem run_of_started {options : Options} {host : Host} (h : start options = .ok host)
    (request : Monitor.Request) (source : Monitor.PathSource) {sink : Sink}
    (hsink : sink.TakesAll) :
    (run options request source sink).result =
        conclusion (.ok ()) (Monitor.run request source host).1 ∧
      (run options request source sink).output =
        (stop (Monitor.run request source host).2).queue.messages.flatMap Message.line := by
  simp only [run, h, report, hsink.write]
  exact ⟨rfl, rfl⟩

/-- Whatever the options and the source, and whenever a shutdown is requested: if all lines are
taken, what is written with notifications in the log is what is written with notifications on the
bridge, without the lines of their type. Line by line these are the notifications among the
messages. -/
theorem log_mode_leaves_out_notifications (options : Options) (request : Monitor.Request)
    (source : Monitor.PathSource) {sink : Sink} (hsink : sink.TakesAll) :
    let bridged := run { options with notify := .bridge } request source sink
    let logged := run { options with notify := .log } request source sink
    logged.result = bridged.result ∧
      logged.output = Message.withoutNotifications bridged.output ∧
      ∃ messages : List Message, bridged.output = messages.flatMap Message.line ∧
        logged.output =
          (messages.filter fun message => !message.isNotification).flatMap Message.line := by
  intro bridged logged
  rcases start_modes options with ⟨fault, hrefused⟩ | ⟨loud, quiet, hloud, hquiet, htwins⟩
  · have hbridged : bridged = ⟨.error (.coordinator fault), [], []⟩ :=
      run_of_refused (hrefused .bridge) request source sink
    have hlogged : logged = ⟨.error (.coordinator fault), [], []⟩ :=
      run_of_refused (hrefused .log) request source sink
    rw [hlogged, hbridged]
    exact ⟨rfl, rfl, [], rfl, rfl⟩
  · obtain ⟨hmonitored, hran⟩ := Monitor.areTwins_run htwins request source
    have hmessages := (areTwins_stop hran).messages_eq
    obtain ⟨hbridgedResult, hbridgedOutput⟩ := run_of_started hloud request source hsink
    obtain ⟨hloggedResult, hloggedOutput⟩ := run_of_started hquiet request source hsink
    rw [hmessages] at hloggedOutput
    refine ⟨?_, ?_, _, hbridgedOutput, hloggedOutput⟩
    · rw [hmonitored, ← hbridgedResult] at hloggedResult
      exact hloggedResult
    · rw [← Message.withoutNotifications_flatMap_line, ← hbridgedOutput] at hloggedOutput
      exact hloggedOutput

/-- A line that holds no change, and a network with notifications before and after what the session
is told of it. -/
theorem network_is_written_without_notifications :
    let text :=
      "?\n\x7b\"network_identity\":\"wifi\",\"dns_servers\":[\"1.1.1.1\"]\x7d".toList
    let options : Options := ⟨"info", .skip, 1, 10, .bridge⟩
    let sink : Sink := ⟨none, some 3, .zero, none⟩
    let source := inputSource [Text.Utf8.encode text] .eof
    let bridged := run options .late source sink
    let logged := run { options with notify := .log } .late source sink
    let messages : List Message :=
      [.setStatus .connecting, .setStatus .up, .notify .connected, .setServers [.v4 ⟨1, 1, 1, 1⟩],
        .reconnect, .setStatus .down, .notify .disconnected]
    sink.TakesAll ∧ bridged.output = messages.flatMap Message.line ∧
      logged.output = Message.withoutNotifications bridged.output ∧
      Message.withoutNotifications bridged.output =
        [.setStatus .connecting, .setStatus .up, .setServers [.v4 ⟨1, 1, 1, 1⟩], .reconnect,
          .setStatus .down].flatMap Message.line := by
  intro text options sink source bridged logged messages
  have hsink : sink.TakesAll := ⟨rfl, by simp [sink], rfl⟩
  obtain ⟨-, houtput, -⟩ := log_mode_leaves_out_notifications options .late source hsink
  have hbridged : bridged.output = messages.flatMap Message.line := by
    decide +kernel
  refine ⟨hsink, hbridged, houtput, ?_⟩
  rw [hbridged, Message.withoutNotifications_flatMap_line]
  rfl

end Daemon.Pipeline

end PathKeeper
