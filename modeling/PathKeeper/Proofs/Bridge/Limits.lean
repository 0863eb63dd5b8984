import Mathlib.Data.Set.Basic
import Mathlib.Order.Bounds.Defs
import PathKeeper.Proofs.Bridge.Scribe

/-!
# Outlets with limits

An outlet may take a line in parts of any size. What it has in the end depends on its limits only:
without room it has taken exactly as much as there was room for, and when it does not flush any more
it has taken whole lines.
-/

namespace PathKeeper.Bridge

set_option autoImplicit false

/-- What the writer returns, if it does. -/
def Ending.result? : Ending → Option (Except Failure Nat)
  | .complete lines => some (.ok lines)
  | .failed failure => some (.error failure)
  | .stalled | .panicked => none

/-- The failure of a write without room left, unless the writer never returns. -/
def Stop.failure? : Stop → Option Failure
  | .failure text => some (.io text)
  | .zero => some zeroFailure
  | .stall | .panic => none

theorem Stop.result?_ending (stop : Stop) :
    stop.ending.result? = stop.failure?.map Except.error := by
  cases stop <;> rfl

/-- With room left something is taken, though no more than by the sink. Everything else is as the
sink answers. -/
structure Outlet.Within (outlet : Outlet) (sink : Sink) : Prop where
  takes {past : List Answer} {taken offered : List UInt8} (hoffered : offered ≠ [])
    (hroom : sink.isExhausted taken.length = false) : ∃ n, outlet.write past taken offered = .ok n ∧
      0 < n ∧ n ≤ sink.takes taken.length offered.length
  stops {past : List Answer} {taken offered : List UInt8} (hoffered : offered ≠ [])
    (hroom : sink.isExhausted taken.length = true) :
    outlet.write past taken offered = sink.stop.answer
  flush (past : List Answer) (taken : List UInt8) :
    outlet.flush past taken = sink.outlet.flush past taken

namespace Sink

/-- How much is taken of a line, in however many writes. -/
def reach (sink : Sink) (taken length : Nat) : Nat :=
  atMost (sink.room.map (· - taken)) length

theorem takes_le_reach (sink : Sink) (taken length : Nat) :
    sink.takes taken length ≤ sink.reach taken length := atMost_le _ _

theorem reach_le (sink : Sink) (taken length : Nat) : sink.reach taken length ≤ length :=
  atMost_le _ _

theorem reach_of_isExhausted {sink : Sink} {taken : Nat} (h : sink.isExhausted taken = true)
    (length : Nat) : sink.reach taken length = 0 := by
  unfold isExhausted at h
  unfold reach
  cases hroom : sink.room with
  | none => simp [hroom] at h
  | some room =>
    rw [hroom, decide_eq_true_eq] at h
    rw [Option.map_some, Nat.sub_eq_zero_of_le h]
    exact Nat.zero_min length

/-- What is taken first does not change how far it reaches. -/
theorem reach_add {sink : Sink} {taken length n : Nat} (h : n ≤ sink.reach taken length) :
    n + sink.reach (taken + n) (length - n) = sink.reach taken length := by
  unfold reach at h ⊢
  cases hroom : sink.room with
  | none =>
    rw [hroom] at h
    exact Nat.add_sub_cancel' h
  | some room =>
    rw [hroom] at h
    simp only [Option.map_some, atMost] at h ⊢
    omega

theorem reach_pos {sink : Sink} {taken length : Nat} (h : sink.isExhausted taken = false)
    (hlength : 0 < length) : 0 < sink.reach taken length := by
  unfold isExhausted at h
  unfold reach
  cases hroom : sink.room with
  | none => exact hlength
  | some room =>
    rw [hroom, decide_eq_false_iff_not] at h
    simp only [Option.map_some, atMost]
    omega

/-- A sink that takes something in a write keeps to its own limits. -/
theorem within_outlet {sink : Sink} (h : sink.chunk ≠ some 0) : sink.outlet.Within sink where
  takes {past taken offered} hoffered hroom := by
    refine ⟨sink.takes taken.length offered.length, ?_, ?_, Nat.le_refl _⟩
    · rw [Scribe.write_outlet, hroom, if_neg Bool.false_ne_true]
    · have hpos := reach_pos hroom (List.length_pos_iff.mpr hoffered)
      change 0 < atMost sink.chunk (sink.reach taken.length offered.length)
      cases hchunk : sink.chunk with
      | none => exact hpos
      | some m =>
        have hm : m ≠ 0 := fun hzero => h (by rw [hchunk, hzero])
        exact Nat.lt_min.mpr ⟨Nat.pos_of_ne_zero hm, hpos⟩
  stops {past taken offered} hoffered hroom := by
    rw [Scribe.write_outlet, hroom, if_pos rfl]
  flush past taken := rfl

end Sink

namespace Scribe

section Line

variable {outlet : Outlet} {sink : Sink}

/-- A line is written as far as the sink reaches, in whatever parts it is taken. -/
theorem exists_finish_reach (h : outlet.Within sink) (count : Nat) (messages : List Message)
    (line output : List UInt8) (answers : List Answer) :
    ∃ later, finish outlet ⟨output, count, some line, answers, none⟩ messages =
      finish outlet ⟨output ++ line.take (sink.reach output.length line.length), count,
        some (line.drop (sink.reach output.length line.length)), later, none⟩ messages := by
  -- what is left of the line gets shorter with every write, as long as there is room
  induction hlength : line.length using Nat.strong_induction_on
    generalizing line output answers with
  | _ length ih =>
    subst hlength
    cases hroom : sink.isExhausted output.length with
    | true =>
      rw [Sink.reach_of_isExhausted hroom, List.take_zero, List.append_nil, List.drop_zero]
      exact ⟨answers, rfl⟩
    | false =>
      cases line with
      | nil =>
        rw [List.take_nil, List.append_nil, List.drop_nil]
        exact ⟨answers, rfl⟩
      | cons b rest =>
        obtain ⟨n, hwrite, hpos, hle⟩ : ∃ n, outlet.write answers output (b :: rest) = .ok n ∧
            0 < n ∧ n ≤ sink.takes output.length (b :: rest).length :=
          h.takes (List.cons_ne_nil b rest) hroom
        obtain ⟨m, rfl⟩ := Nat.exists_eq_succ_of_ne_zero hpos.ne'
        have hreach := Nat.le_trans hle (sink.takes_le_reach _ _)
        have hshort := Nat.le_trans hreach (sink.reach_le _ _)
        have hdrop : ((b :: rest).drop (m + 1)).length < (b :: rest).length := by
          rw [List.length_drop]
          omega
        obtain ⟨later, hlater⟩ := ih _ hdrop ((b :: rest).drop (m + 1))
          (output ++ (b :: rest).take (m + 1)) (answers ++ [.write (.ok (m + 1))]) rfl
        have houtput : (output ++ (b :: rest).take (m + 1)).length = output.length + (m + 1) := by
          rw [List.length_append, List.length_take, Nat.min_eq_left hshort]
        rw [houtput, List.length_drop, List.append_assoc, ← List.take_add, List.drop_drop,
          Sink.reach_add hreach] at hlater
        refine ⟨later, ?_⟩
        rw [← finish_step, step_write, hwrite]
        exact hlater

/-- A line is written whole if the sink reaches so far. -/
theorem exists_finish_whole (h : outlet.Within sink) (count : Nat) (messages : List Message)
    {line output : List UInt8} (hreach : sink.reach output.length line.length = line.length)
    (answers : List Answer) :
    ∃ later, finish outlet ⟨output, count, some line, answers, none⟩ messages =
      finish outlet ⟨output ++ line, count, some [], later, none⟩ messages := by
  obtain ⟨later, hlater⟩ := exists_finish_reach h count messages line output answers
  rw [hreach, List.take_length, List.drop_length] at hlater
  exact ⟨later, hlater⟩

/-- If the sink does not reach so far, it ends as it does without room. -/
theorem finish_of_reach_lt (h : outlet.Within sink) (count : Nat) (messages : List Message)
    {line output : List UInt8} (hreach : sink.reach output.length line.length < line.length)
    (answers : List Answer) :
    let last := finish outlet ⟨output, count, some line, answers, none⟩ messages
    last.output = output ++ line.take (sink.reach output.length line.length) ∧
      last.ending = some sink.stop.ending := by
  intro last
  obtain ⟨later, hlater⟩ := exists_finish_reach h count messages line output answers
  have hroom : sink.isExhausted
      (output ++ line.take (sink.reach output.length line.length)).length = true := by
    have hlength := sink.reach_add (Nat.le_refl (sink.reach output.length line.length))
    by_contra hroom
    rw [Bool.not_eq_true, List.length_append, List.length_take, Nat.min_eq_left hreach.le] at hroom
    have hpos := Sink.reach_pos hroom (Nat.sub_pos_of_lt hreach)
    omega
  cases hrest : line.drop (sink.reach output.length line.length) with
  | nil => exact absurd (List.drop_eq_nil_iff.mp hrest) (Nat.not_le.mpr hreach)
  | cons b rest =>
    obtain ⟨houtput, hended⟩ := hear_stop
      ⟨output ++ line.take (sink.reach output.length line.length), count, some (b :: rest), later,
        none⟩ sink.stop
    have hlast : last = _ := hlater
    rw [hrest, ← finish_step, step_write, h.stops (List.cons_ne_nil b rest) hroom,
      finish_of_ended hended] at hlast
    rw [hlast]
    exact ⟨houtput, hended⟩

theorem finish_take_up (output : List UInt8) (count : Nat) (answers : List Answer)
    (message : Message) (messages : List Message) :
    finish outlet ⟨output, count, none, answers, none⟩ (message :: messages) =
      finish outlet ⟨output, count, some message.bytes, answers, none⟩ messages := by
  rw [← finish_step]
  rfl

theorem finish_nothing (output : List UInt8) (count : Nat) (answers : List Answer) :
    finish outlet ⟨output, count, none, answers, none⟩ [] =
      ⟨output, count, none, answers, some (.complete count)⟩ := by
  rw [finish, dif_pos rfl, dif_pos ⟨rfl, rfl⟩]

theorem finish_flush {output : List UInt8} {answers : List Answer}
    (hflush : outlet.flush answers output = .ok ()) (count : Nat) (messages : List Message) :
    finish outlet ⟨output, count, some [], answers, none⟩ messages =
      finish outlet ⟨output, count + 1, none, answers ++ [.flush (.ok ())], none⟩ messages := by
  rw [← finish_step, step_flush, hflush]
  rfl

/-! ## Limited room -/

theorem finish_of_room {limit : Nat} {chunk : Option Nat} {stop : Stop}
    (h : outlet.Within ⟨some limit, chunk, stop, none⟩) (messages : List Message)
    {output : List UInt8} (hle : output.length ≤ limit) (count : Nat) (answers : List Answer) :
    let rest := messages.flatMap Message.bytes
    let last := finish outlet ⟨output, count, none, answers, none⟩ messages
    last.output = output ++ rest.take (limit - output.length) ∧
      last.ending = some (if output.length + rest.length ≤ limit
        then .complete (count + messages.length) else stop.ending) := by
  induction messages generalizing output count answers with
  | nil =>
    intro rest last
    have hlast : last = ⟨output, count, none, answers, some (.complete count)⟩ :=
      finish_nothing output count answers
    rw [hlast]
    exact ⟨by simp [rest], by simp [rest, hle]⟩
  | cons message messages ih =>
    simp only [finish_take_up, List.flatMap_cons, List.take_append, List.length_append,
      List.length_cons]
    by_cases hfits : output.length + message.bytes.length ≤ limit
    · have hreach : Nat.min (limit - output.length) message.bytes.length = message.bytes.length :=
        Nat.min_eq_right (by omega)
      obtain ⟨later, hlater⟩ := exists_finish_whole h count messages hreach answers
      have hlength : (output ++ message.bytes).length ≤ limit := by
        rw [List.length_append]
        exact hfits
      obtain ⟨houtput, hended⟩ := ih hlength (count + 1) (later ++ [.flush (.ok ())])
      rw [hlater, finish_flush (h.flush _ _), houtput, hended, List.length_append,
        List.take_of_length_le (by omega : message.bytes.length ≤ limit - output.length),
        List.append_assoc, Nat.sub_add_eq]
      exact ⟨rfl, by rw [Nat.add_assoc, Nat.add_assoc, Nat.add_comm 1]⟩
    · have hreach : Nat.min (limit - output.length) message.bytes.length =
          limit - output.length := Nat.min_eq_left (by omega)
      obtain ⟨houtput, hended⟩ :=
        finish_of_reach_lt h count messages (hreach.trans_lt (by omega)) answers
      have hnothing : limit - output.length - message.bytes.length = 0 := by omega
      have hlong : ¬ output.length + (message.bytes.length +
          (messages.flatMap Message.bytes).length) ≤ limit := by omega
      rw [houtput, hended, hnothing, List.take_zero, List.append_nil, if_neg hlong]
      exact ⟨congrArg (fun n => output ++ message.bytes.take n) hreach, rfl⟩

/-! ## Flushes that fail -/

/-- How many of the messages make a run of lines with which so much is written, behind what has been
taken. -/
def longRuns (limit taken : Nat) (messages : List Message) : Set Nat :=
  {n | 0 < n ∧ n ≤ messages.length ∧
    limit ≤ taken + ((messages.take n).flatMap Message.bytes).length}

theorem one_mem_longRuns {limit taken : Nat} {message : Message}
    (h : limit ≤ taken + message.bytes.length) (messages : List Message) :
    1 ∈ longRuns limit taken (message :: messages) := by
  refine ⟨Nat.one_pos, Nat.succ_le_succ (Nat.zero_le _), ?_⟩
  rw [List.take_succ_cons, List.take_zero, List.flatMap_cons, List.flatMap_nil, List.append_nil]
  exact h

theorem succ_mem_longRuns {limit taken : Nat} {message : Message}
    (h : ¬ limit ≤ taken + message.bytes.length) (messages : List Message) (n : Nat) :
    n + 1 ∈ longRuns limit taken (message :: messages) ↔
      n ∈ longRuns limit (taken + message.bytes.length) messages := by
  simp only [longRuns, Set.mem_ofPred_eq, List.take_succ_cons, List.flatMap_cons,
    List.length_append, List.length_cons]
  constructor
  · rintro ⟨-, hle, hlong⟩
    refine ⟨?_, by omega, by omega⟩
    -- the first line alone does not reach the limit
    apply Nat.pos_of_ne_zero
    rintro rfl
    exact h (by simpa using hlong)
  · rintro ⟨-, hle, hlong⟩
    exact ⟨Nat.succ_pos n, by omega, by omega⟩

theorem isLeast_longRuns_of_cons {limit taken : Nat} {message : Message}
    (h : ¬ limit ≤ taken + message.bytes.length) {messages : List Message} {n : Nat}
    (hn : IsLeast (longRuns limit taken (message :: messages)) n) :
    ∃ m, n = m + 1 ∧ IsLeast (longRuns limit (taken + message.bytes.length) messages) m := by
  obtain ⟨hmem, hleast⟩ := hn
  obtain ⟨m, rfl⟩ := Nat.exists_eq_succ_of_ne_zero hmem.1.ne'
  refine ⟨m, rfl, (succ_mem_longRuns h messages m).mp hmem, ?_⟩
  intro k hk
  exact Nat.le_of_succ_le_succ (hleast ((succ_mem_longRuns h messages k).mpr hk))

theorem longRuns_eq_empty_of_cons {limit taken : Nat} {message : Message}
    (h : ¬ limit ≤ taken + message.bytes.length) {messages : List Message}
    (hnone : longRuns limit taken (message :: messages) = ∅) :
    longRuns limit (taken + message.bytes.length) messages = ∅ := by
  apply Set.eq_empty_of_forall_notMem
  intro k hk
  exact Set.eq_empty_iff_forall_notMem.mp hnone (k + 1) ((succ_mem_longRuns h messages k).mpr hk)

theorem flush_of_fault {limit : Nat} {text : String} {chunk : Option Nat} {stop : Stop}
    (h : outlet.Within ⟨none, chunk, stop, some (limit, text)⟩) (answers : List Answer)
    (output : List UInt8) :
    outlet.flush answers output =
      if limit ≤ output.length then .error (.failure text) else .ok () := h.flush answers output

theorem finish_of_flushFault {limit : Nat} {text : String} {chunk : Option Nat} {stop : Stop}
    (h : outlet.Within ⟨none, chunk, stop, some (limit, text)⟩) (messages : List Message)
    (output : List UInt8) (count : Nat) (answers : List Answer) :
    let last := finish outlet ⟨output, count, none, answers, none⟩ messages
    (∀ n, IsLeast (longRuns limit output.length messages) n →
        last.output = output ++ (messages.take n).flatMap Message.bytes ∧
          last.ending = some (.failed (.io text))) ∧
      (longRuns limit output.length messages = ∅ →
        last.output = output ++ messages.flatMap Message.bytes ∧
          last.ending = some (.complete (count + messages.length))) := by
  induction messages generalizing output count answers with
  | nil =>
    intro last
    have hlast : last = ⟨output, count, none, answers, some (.complete count)⟩ :=
      finish_nothing output count answers
    rw [hlast]
    refine ⟨?_, fun _ => ⟨(List.append_nil output).symm, rfl⟩⟩
    rintro n ⟨⟨hpos, hle, -⟩, -⟩
    exact absurd hle (Nat.not_le.mpr hpos)
  | cons message messages ih =>
    have hreach : Sink.reach ⟨none, chunk, stop, some (limit, text)⟩ output.length
        message.bytes.length = message.bytes.length := rfl
    obtain ⟨later, hlater⟩ := exists_finish_whole h count messages hreach answers
    have hflush := flush_of_fault h later (output ++ message.bytes)
    rw [List.length_append] at hflush
    simp only [finish_take_up, hlater]
    by_cases hlimit : limit ≤ output.length + message.bytes.length
    · have hfirst := one_mem_longRuns hlimit messages
      rw [if_pos hlimit] at hflush
      rw [← finish_step, step_flush, hflush, finish_of_ended rfl]
      refine ⟨fun n hn => ?_, fun hnone => absurd hfirst (hnone ▸ Set.notMem_empty 1)⟩
      have hone : n = 1 := Nat.le_antisymm (hn.2 hfirst) hn.1.1
      subst hone
      exact ⟨by simp [hear, advance], rfl⟩
    · rw [if_neg hlimit] at hflush
      rw [finish_flush hflush]
      obtain ⟨hlong, hshort⟩ := ih (output ++ message.bytes) (count + 1)
        (later ++ [.flush (.ok ())])
      rw [List.length_append] at hlong hshort
      constructor
      · intro n hn
        obtain ⟨m, rfl, hm⟩ := isLeast_longRuns_of_cons hlimit hn
        obtain ⟨houtput, hended⟩ := hlong m hm
        rw [houtput, hended, List.append_assoc]
        exact ⟨rfl, rfl⟩
      · intro hnone
        obtain ⟨houtput, hended⟩ := hshort (longRuns_eq_empty_of_cons hlimit hnone)
        rw [houtput, hended, List.append_assoc, List.length_cons, Nat.add_assoc, Nat.add_comm 1]
        exact ⟨rfl, rfl⟩

end Line

/-- What the writer has returned, if it has. -/
def result? (scribe : Scribe) : Option (Except Failure Nat) := scribe.ending.bind Ending.result?

theorem result?_of_ending {scribe : Scribe} {ending : Ending} (h : scribe.ending = some ending) :
    scribe.result? = ending.result? := by
  rw [result?, h]
  rfl

/-- An outlet that takes at most so much in one write leaves the same whatever parts it takes. With
limited room it has taken as much as there was room for, and the count of all messages is returned
only if that was everything; otherwise the result is that of the write without room, if there is
any. If it does not flush once so much is written, it has taken the shortest run of lines with which
that is the case, and the flush's failure is returned; without such a run everything is written. The
sinks that take something in a write are such outlets, and lines go there as writing them one after
another does. -/
theorem limits_tell_what_is_written (messages : List Message) (outlet : Outlet) (limit : Nat)
    (chunk : Option Nat) :
    let whole := messages.flatMap Message.bytes
    let last := fresh.finish outlet messages
    let runs := longRuns limit 0 messages
    (∀ stop, outlet.Within ⟨some limit, chunk, stop, none⟩ →
      last.output = whole.take limit ∧
        last.result? = if whole.length ≤ limit then some (.ok messages.length)
          else stop.failure?.map .error) ∧
      (∀ stop text, outlet.Within ⟨none, chunk, stop, some (limit, text)⟩ →
        (∀ n, IsLeast runs n → last.output = (messages.take n).flatMap Message.bytes ∧
          last.result? = some (.error (.io text))) ∧
        (runs = ∅ → last.output = whole ∧ last.result? = some (.ok messages.length))) ∧
      ∀ sink, sink.chunk ≠ some 0 →
        let written := Bridge.write sink (messages.map Message.line)
        sink.outlet.Within sink ∧
          (fresh.finish sink.outlet messages).output = Text.Utf8.encode written.1 ∧
          (fresh.finish sink.outlet messages).result? = written.2.result? := by
  intro whole last runs
  refine ⟨fun stop h => ?_, fun stop text h => ?_, fun sink hsink => ?_⟩
  · have hempty : ([] : List UInt8).length ≤ limit := Nat.zero_le limit
    obtain ⟨houtput, hended⟩ := finish_of_room h messages hempty 0 []
    rw [List.length_nil, Nat.zero_add] at hended
    refine ⟨houtput, (result?_of_ending hended).trans ?_⟩
    by_cases hfits : whole.length ≤ limit
    · rw [if_pos hfits, if_pos hfits, Nat.zero_add]
      rfl
    · rw [if_neg hfits, if_neg hfits]
      exact stop.result?_ending
  · obtain ⟨hlong, hshort⟩ := finish_of_flushFault h messages [] 0 []
    constructor
    · intro n hn
      obtain ⟨houtput, hended⟩ := hlong n hn
      exact ⟨houtput, result?_of_ending hended⟩
    · intro hnone
      obtain ⟨houtput, hended⟩ := hshort hnone
      rw [Nat.zero_add] at hended
      exact ⟨houtput, result?_of_ending hended⟩
  · intro written
    obtain ⟨houtput, hended⟩ := finish_fresh_outlet sink messages
    exact ⟨Sink.within_outlet hsink, houtput, result?_of_ending hended⟩

end Scribe

/-- Has room for so much, and takes one, two or three bytes, each time one more than before. -/
def hesitant (limit : Nat) (stop : Stop) : Outlet where
  write past taken offered :=
    if limit ≤ taken.length then stop.answer
    else .ok (min (past.length % 3 + 1) (min (limit - taken.length) offered.length))
  flush _ _ := .ok ()
  write_le {past taken offered n} h := by
    split at h
    · rw [Stop.answer_eq_ok h]
      exact Nat.zero_le _
    · have hn := Except.ok.inj h
      omega

theorem within_hesitant (limit : Nat) (stop : Stop) :
    (hesitant limit stop).Within ⟨some limit, some 3, stop, none⟩ where
  takes {past taken offered} hoffered hroom := by
    have hlength : 0 < offered.length := List.length_pos_iff.mpr hoffered
    have hleft : ¬ limit ≤ taken.length := of_decide_eq_false hroom
    refine ⟨_, if_neg hleft, ?_, ?_⟩
    · omega
    · change _ ≤ min 3 (min (limit - taken.length) offered.length)
      omega
  stops hoffered hroom := if_pos (of_decide_eq_true hroom)
  flush past taken := rfl

/-- An outlet that has room for the first line only, and one byte less, and a sink that does not
flush behind one byte more. -/
theorem three_messages_end_at_the_limit :
    let messages : List Message := [.setStatus .up, .notify .connected, .reconnect]
    let first := (messages.take 1).flatMap Message.bytes
    let room := fun limit stop => Scribe.fresh.finish (hesitant limit stop) messages
    let broken : Sink := ⟨none, some 7, .zero, some (first.length + 1, "no flush")⟩
    let flushed := Scribe.fresh.finish broken.outlet messages
    (room first.length .stall).output = first ∧ (room first.length .stall).result? = none ∧
      (room (first.length - 1) .zero).output = first.dropLast ∧
      (room (first.length - 1) .zero).result? = some (.error zeroFailure) ∧
      flushed.output = (messages.take 2).flatMap Message.bytes ∧
      flushed.result? = some (.error (.io "no flush")) := by
  intro messages first room broken flushed
  obtain ⟨hfull, -, -⟩ := Scribe.limits_tell_what_is_written messages (hesitant first.length .stall)
    first.length (some 3)
  obtain ⟨hshort, -, -⟩ := Scribe.limits_tell_what_is_written messages
    (hesitant (first.length - 1) .zero) (first.length - 1) (some 3)
  obtain ⟨-, hflush, -⟩ := Scribe.limits_tell_what_is_written messages broken.outlet
    (first.length + 1) (some 7)
  obtain ⟨houtput, hresult⟩ := hfull .stall (within_hesitant _ _)
  obtain ⟨hcut, hzero⟩ := hshort .zero (within_hesitant _ _)
  have htwo : IsLeast (Scribe.longRuns (first.length + 1) 0 messages) 2 := by
    refine ⟨⟨Nat.two_pos, by decide, by decide +kernel⟩, ?_⟩
    rintro n ⟨hpos, -, hlong⟩
    by_contra hn
    have hone : n = 1 := by omega
    subst hone
    rw [Nat.zero_add] at hlong
    exact Nat.lt_irrefl _ hlong
  obtain ⟨hrun, hfailure⟩ := (hflush .zero "no flush" (Sink.within_outlet (by decide))).1 2 htwo
  refine ⟨houtput.trans ?_, hresult.trans ?_, hcut.trans ?_, hzero.trans ?_, hrun, hfailure⟩
  · decide +kernel
  · decide +kernel
  · decide +kernel
  · decide +kernel

end PathKeeper.Bridge
