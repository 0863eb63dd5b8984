import PathKeeper.Daemon.Tandem
import PathKeeper.Proofs.Bridge.Scribe
import PathKeeper.Proofs.Daemon.Output

/-!
# What a failing writer does to a pipeline

The writer may be gone long before the pipeline stops. The coordinator does not notice, and what has
been written is the front of what there was to write. Whether the pipeline fails is decided by what
the calls to the outlet came to.
-/

namespace PathKeeper

set_option autoImplicit false

open Bridge (Answer Ending Message Outlet Scribe Sink message?)
open Coordinator (Happening Move Operation after callsIn history)

/-! ## Answers -/

namespace Bridge.Answer

variable {answer : Answer}

theorem not_isFault_of_ending?_eq_none (h : answer.ending? = none) : ¬ answer.isFault = true := by
  match answer with
  | .write (.ok (n + 1)) => simp [isFault]
  | .flush (.ok ()) => simp [isFault]

theorem exists_fault_iff {ending : Ending} (h : answer.ending? = some ending) :
    (∃ fault, Daemon.Pipeline.result ending = .error fault) ↔ answer.isFault = true := by
  match answer with
  | .write (.ok 0) => cases h; simp [Daemon.Pipeline.result, isFault]
  | .write (.error mishap) =>
    cases h; cases mishap <;> simp [Daemon.Pipeline.result, Mishap.ending, isFault]
  | .flush (.error mishap) =>
    cases h; cases mishap <;> simp [Daemon.Pipeline.result, Mishap.ending, isFault]

theorem isStall_of_result_eq_ok {ending : Ending} (h : answer.ending? = some ending)
    (hresult : Daemon.Pipeline.result ending = .ok ()) : answer.isStall = true := by
  match answer with
  | .write (.ok 0) => cases h; cases hresult
  | .write (.error mishap) => cases h; cases mishap <;> first | rfl | cases hresult
  | .flush (.error mishap) => cases h; cases mishap <;> first | rfl | cases hresult

end Bridge.Answer

namespace Bridge.Scribe

variable {outlet : Outlet} {sent : List Message} {scribe : Scribe} {queue : Queue}

/-! ## Endings -/

namespace Ended

variable {whole : List UInt8} {ending : Ending}

theorem isPrefix (h : Ended whole scribe ending) : scribe.output <+: whole := by
  cases h with
  | complete count houtput hanswers => exact houtput ▸ List.prefix_rfl
  | cut ending houtput earlier last hanswers hearlier hlast => exact houtput

/-- Only the last answer can be a fault. -/
theorem exists_fault_iff (h : Ended whole scribe ending) :
    (∃ fault, Daemon.Pipeline.result ending = .error fault) ↔
      ∃ answer ∈ scribe.answers, answer.isFault = true := by
  cases h with
  | complete count houtput hanswers =>
    constructor
    · rintro ⟨fault, hfault⟩
      cases hfault
    · rintro ⟨answer, hmem, hfault⟩
      exact absurd hfault (Answer.not_isFault_of_ending?_eq_none (hanswers answer hmem))
  | cut ending houtput earlier last hanswers hearlier hlast =>
    rw [Answer.exists_fault_iff hlast, hanswers]
    constructor
    · intro hfault
      exact ⟨last, List.mem_append_right _ List.mem_cons_self, hfault⟩
    · rintro ⟨answer, hmem, hfault⟩
      rcases List.mem_append.mp hmem with hmem | hmem
      · exact absurd hfault (Answer.not_isFault_of_ending?_eq_none (hearlier answer hmem))
      · rwa [List.mem_singleton.mp hmem] at hfault

theorem whole_or_stall (h : Ended whole scribe ending)
    (hresult : Daemon.Pipeline.result ending = .ok ()) :
    scribe.output = whole ∨ ∃ answer ∈ scribe.answers, answer.isStall = true := by
  cases h with
  | complete count houtput hanswers => exact .inl houtput
  | cut ending houtput earlier last hanswers hearlier hlast =>
    refine .inr ⟨last, ?_, Answer.isStall_of_result_eq_ok hlast hresult⟩
    rw [hanswers]
    exact List.mem_append_right _ List.mem_cons_self

end Ended

/-! ## Queues -/

theorem IsSent.keep (h : IsSent outlet sent scribe queue) (notifier : Notifier)
    (calls : List (Coordinator.Call Engine)) :
    IsSent outlet (sent ++ calls.filterMap (message? notifier)) scribe
      (calls.foldl (Queue.keep notifier) queue) := by
  induction calls generalizing sent queue with
  | nil => simpa using h
  | cons call calls ih =>
    rw [List.foldl_cons, Queue.keep]
    cases hmessage : message? notifier call with
    | none =>
      rw [List.filterMap_cons_none hmessage]
      exact ih h
    | some message =>
      rw [List.filterMap_cons_some hmessage, ← List.singleton_append, ← List.append_assoc]
      exact ih (h.send message)

end Bridge.Scribe

namespace Daemon.Tandem

/-! ## Runs -/

/-- What the calls of a trace put on the bridge. -/
def sentIn (notifier : Notifier) (trace : List (Happening Engine)) : List Message :=
  (callsIn trace).filterMap (message? notifier)

theorem sentIn_append (notifier : Notifier) (front back : List (Happening Engine)) :
    sentIn notifier (front ++ back) = sentIn notifier front ++ sentIn notifier back := by
  simp [sentIn]

/-- A host with a known past, and a writer that has kept up with it in its own way. -/
structure Tracks (outlet : Outlet) (k : Coordinator Engine) (notifier : Notifier)
    (trace : List (Happening Engine)) (tandem : Tandem) : Prop where
  coordinator_eq : tandem.host.coordinator = k
  notifier_eq : tandem.host.notifier = notifier
  trace_eq : tandem.trace = trace
  isSent : tandem.scribe.IsSent outlet (sentIn notifier trace) tandem.host.queue

namespace Tracks

variable {outlet : Outlet} {k : Coordinator Engine} {notifier : Notifier}
  {trace : List (Happening Engine)} {tandem : Tandem}

theorem turn (h : Tracks outlet k notifier trace tandem) :
    Tracks outlet k notifier trace (tandem.turn outlet) :=
  ⟨h.coordinator_eq, h.notifier_eq, h.trace_eq, h.isSent.turn⟩

theorem turns (h : Tracks outlet k notifier trace tandem) (n : Nat) :
    Tracks outlet k notifier trace (tandem.turns outlet n) := by
  induction n generalizing tandem with
  | zero => exact h
  | succ n ih => exact ih h.turn

theorem absorb (h : Tracks outlet k notifier trace tandem) (pace : Pace)
    (happening : Happening Engine) :
    Tracks outlet k notifier (trace ++ [happening]) (tandem.absorb outlet pace happening) := by
  obtain ⟨hcoordinator, hnotifier, htrace, hsent⟩ := h.turns (pace tandem.trace.length)
  refine ⟨?_, ?_, congrArg (· ++ [happening]) htrace, ?_⟩
  · exact (Host.coordinator_absorb [happening] _).trans hcoordinator
  · exact (Host.notifier_absorb [happening] _).trans hnotifier
  · have hqueue := (Host.isKept_queue notifier).absorb [happening]
      (tandem.turns outlet (pace tandem.trace.length)).host hnotifier
    rw [List.foldl_cons, List.foldl_nil] at hqueue
    rw [Tandem.absorb, sentIn_append]
    simp only [hqueue]
    exact hsent.keep notifier (callsIn [happening])

theorem foldl_absorb (h : Tracks outlet k notifier trace tandem) (pace : Pace)
    (later : List (Happening Engine)) :
    Tracks outlet k notifier (trace ++ later) (later.foldl (Tandem.absorb outlet pace) tandem) := by
  induction later generalizing trace tandem with
  | nil => simpa using h
  | cons happening later ih => simpa using ih (h.absorb pace happening)

variable {start : Coordinator Engine} {moves : List (Move Engine)}

theorem perform (h : Tracks outlet (after moves start) notifier (history moves start) tandem)
    (pace : Pace) (op : Operation Engine) :
    Tracks outlet (after (moves ++ [.operate op .none]) start) notifier
      (history (moves ++ [.operate op .none]) start) (tandem.perform outlet pace op) := by
  obtain ⟨hcoordinator, hnotifier, htrace, hsent⟩ := h
  obtain ⟨-, hsame, hqueue⟩ := Host.provide_eq op tandem.host
  let outcome := (Move.operate op .none).outcome (after moves start)
  let begun : Tandem :=
    { tandem with host := { tandem.host.provide op with coordinator := outcome.coordinator } }
  have hbegun : Tracks outlet outcome.coordinator notifier (history moves start) begun :=
    ⟨rfl, hsame.trans hnotifier, htrace, hqueue ▸ hsent⟩
  have hperform : tandem.perform outlet pace op =
      outcome.trace.foldl (Tandem.absorb outlet pace) begun := by
    rw [Tandem.perform, Host.interference_none, hcoordinator]
    rfl
  have hhistory : history [.operate op .none] (after moves start) = outcome.trace := by
    simp [outcome]
  rw [hperform, Coordinator.after_append, Coordinator.history_append, hhistory]
  exact hbegun.foldl_absorb pace outcome.trace

theorem foldl_perform
    (h : Tracks outlet (after moves start) notifier (history moves start) tandem) (pace : Pace)
    (ops : List (Operation Engine)) :
    Tracks outlet (after (moves ++ ops.map (.operate · .none)) start) notifier
      (history (moves ++ ops.map (.operate · .none)) start)
      (ops.foldl (Tandem.perform outlet pace) tandem) := by
  induction ops generalizing moves tandem with
  | nil => simpa using h
  | cons op ops ih => simpa using ih (h.perform pace op)

end Tracks

theorem map_operations (request : Monitor.Request) (source : Monitor.PathSource) :
    (operations request source).map (Move.operate · .none) =
      course (Monitor.applied request source) := by
  simp [operations, course, Monitor.moves]

/-- Whatever becomes of the writer, the coordinator goes the same way, and the writer leaves what it
would leave if it came only when all had been sent. -/
theorem run_eq {options : Options} {start : Coordinator Engine}
    (h : Coordinator.new options.settings = .ok start) (request : Monitor.Request)
    (source : Monitor.PathSource) (outlet : Outlet) (pace : Pace) :
    let moves := course (Monitor.applied request source)
    let sent := sentIn (Pipeline.notifier options.notify) (history moves start)
    ∃ tandem : Tandem, tandem.host.coordinator = after moves start ∧
      tandem.trace = history moves start ∧ run options request source outlet pace =
        .ok (report source (Scribe.fresh.finish outlet sent) tandem) := by
  intro moves sent
  obtain ⟨host, hnew, hcoordinator, hnotifier, hqueue⟩ :=
    Host.tracks_new h (Pipeline.notifier options.notify)
  have hbegun : Tracks outlet (after [] start) (Pipeline.notifier options.notify)
      (history [] start) ⟨host, .fresh, []⟩ :=
    ⟨hcoordinator, hnotifier, rfl, hqueue ▸ Scribe.isSent_fresh outlet⟩
  have hdone := hbegun.foldl_perform pace (operations request source)
  rw [List.nil_append, map_operations] at hdone
  have hfate := hdone.isSent.fate []
  rw [List.append_nil, List.append_nil] at hfate
  refine ⟨_, hdone.coordinator_eq, hdone.trace_eq, ?_⟩
  simp only [run, hnew, hfate]
  rfl

/-- The pipeline whose writer comes only when it has stopped. -/
theorem pipeline_run_eq {options : Options} {start : Coordinator Engine}
    (h : Coordinator.new options.settings = .ok start) (request : Monitor.Request)
    (source : Monitor.PathSource) (sink : Sink) :
    let moves := course (Monitor.applied request source)
    let written := Bridge.write sink
      ((sentIn (Pipeline.notifier options.notify) (history moves start)).map Message.line)
    (Pipeline.run options request source sink).result =
        Pipeline.conclusion (Pipeline.result written.2) (source.current.map fun _ => ()) ∧
      (Pipeline.run options request source sink).output = written.1 := by
  intro moves written
  obtain ⟨attached, hstart, hattached⟩ := Pipeline.tracks_start h
  obtain ⟨-, -, hqueue⟩ := Pipeline.tracks_stop (Monitor.tracks_applied hattached request source)
  have hlines : Pipeline.lines (Pipeline.stop (Monitor.run request source attached).2) =
      (sentIn (Pipeline.notifier options.notify) (history moves start)).map Message.line := by
    rw [Pipeline.lines, hqueue]
    rfl
  have hmonitored : (Monitor.run request source attached).1 = source.current.map fun _ => () := by
    unfold Monitor.run
    cases source.current <;> rfl
  have hrun : Pipeline.run options request source sink =
      Pipeline.report options sink (Monitor.run request source attached).1
        (Pipeline.stop (Monitor.run request source attached).2) := by
    simp only [Pipeline.run, hstart]
  rw [hrun, Pipeline.report, hlines, hmonitored]
  exact ⟨rfl, rfl⟩

theorem conclusion_ok (writer : Except PipelineFault Unit) :
    Pipeline.conclusion writer (.ok ()) = writer := by
  cases writer <;> rfl

theorem isWithin_of_validate {options : Options} (h : options.validate = .ok ()) :
    Options.isWithin capacityRange options.eventCapacity = true := by
  unfold Options.validate at h
  split at h
  · assumption
  · cases h

/-- Whatever calls to the outlet come to and at whatever pace the writer works, the coordinator goes
the same way, and what the outlet took call by call is a front part of what is written where there
is room for everything. The pipeline fails exactly when a write failed or took nothing, a flush
failed or a call panicked. It succeeds only with everything written or with a call that never
returned. A writer that comes when all is over leaves the same. -/
theorem writer_failures_are_contained {options : Options} (hvalid : options.validate = .ok ())
    (request : Monitor.Request) (chunks : List (List UInt8)) (ending : Source.Ending) :
    let source := Pipeline.inputSource chunks ending
    let whole := Text.Utf8.encode (Pipeline.run options request source .unlimited).output
    ∃ k trace, ∀ outlet pace, ∃ report, run options request source outlet pace = .ok report ∧
      report.coordinator = k ∧ report.trace = trace ∧
      Scribe.Dialogue outlet whole report.answers report.output ∧ report.output <+: whole ∧
      ((∃ fault, report.result = .error fault) ↔
        ∃ answer ∈ report.answers, answer.isFault = true) ∧
      (report.result = .ok () →
        report.output = whole ∨ ∃ answer ∈ report.answers, answer.isStall = true) ∧
      ∀ sink : Sink, outlet = sink.outlet →
        report.result = (Pipeline.run options request source sink).result ∧
          report.output =
            Text.Utf8.encode (Pipeline.run options request source sink).output := by
  intro source whole
  obtain ⟨start, hnew⟩ := new_of_isWithin (isWithin_of_validate hvalid)
  let moves := course (Monitor.applied request source)
  let sent := sentIn (Pipeline.notifier options.notify) (history moves start)
  have hunlimited : Sink.unlimited.TakesAll := ⟨rfl, by simp [Sink.unlimited], rfl⟩
  have hwhole : whole = sent.flatMap Message.bytes := by
    simp only [whole, (pipeline_run_eq hnew request source .unlimited).2, hunlimited.write]
    exact Message.encode_flatMap_line sent
  refine ⟨after moves start, history moves start, fun outlet pace => ?_⟩
  obtain ⟨tandem, hcoordinator, htrace, hrun⟩ := run_eq hnew request source outlet pace
  obtain ⟨last, hlast, hdialogue, hended⟩ := (Scribe.isSound_fresh outlet sent).finish
  rw [← hwhole] at hdialogue hended
  have hresult : (report source (Scribe.fresh.finish outlet sent) tandem).result =
      Pipeline.result last := by
    rw [report, hlast]
    exact conclusion_ok _
  refine ⟨_, hrun, hcoordinator, htrace, hdialogue, hended.isPrefix, ?_, ?_, ?_⟩
  · rw [hresult]
    exact hended.exists_fault_iff
  · rw [hresult]
    exact hended.whole_or_stall
  · rintro sink rfl
    obtain ⟨houtput, hending⟩ := Scribe.finish_fresh_outlet sink sent
    obtain ⟨hpipeline, hwritten⟩ := pipeline_run_eq hnew request source sink
    constructor
    · rw [hresult, hpipeline, Option.some.inj (hlast.symm.trans hending)]
      exact (conclusion_ok _).symm
    · rw [hwritten]
      exact houtput

/-- The outlet takes 16 bytes at a time and panics in the second line, when the writer, which gets
three turns before anything happens, is long past the first one. -/
theorem panic_within_a_line_is_reported :
    let text := "\x7b\"network_identity\":\"wifi\",\"dns_servers\":[\"1.1.1.1\"]\x7d\n".toList
    let source := Pipeline.inputSource [Text.Utf8.encode text] .eof
    let options : Options := ⟨"info", .skip, 16, 10, .bridge⟩
    let sink : Sink := ⟨some 50, some 16, .panic, none⟩
    options.validate = .ok () ∧
      ∃ report, run options .late source sink.outlet (fun _ => 3) = .ok report ∧
        report.result = .error .writerPanicked ∧
        report.output =
          Text.Utf8.encode ("\x7b\"type\":\"status\",\"status\":\"connecting\"\x7d\n" ++
            "\x7b\"type\":\"s").toList ∧
        ∃ answer ∈ report.answers, answer.isFault = true := by
  intro text source options sink
  have hvalid : options.validate = .ok () := by decide +kernel
  have hpipeline : (Pipeline.run options .late source sink).result = .error .writerPanicked ∧
      (Pipeline.run options .late source sink).output =
        ("\x7b\"type\":\"status\",\"status\":\"connecting\"\x7d\n" ++
          "\x7b\"type\":\"s").toList := by decide +kernel
  obtain ⟨hresult, houtput⟩ := hpipeline
  obtain ⟨k, trace, hcontained⟩ :=
    writer_failures_are_contained hvalid .late [Text.Utf8.encode text] .eof
  obtain ⟨report, hrun, -, -, -, -, hfault, -, hsink⟩ := hcontained sink.outlet fun _ => 3
  obtain ⟨hsame, hwritten⟩ := hsink sink rfl
  rw [hresult] at hsame
  rw [houtput] at hwritten
  exact ⟨hvalid, report, hrun, hsame, hwritten, hfault.mp ⟨_, hsame⟩⟩

end Daemon.Tandem

end PathKeeper
