import PathKeeper.Bridge.Scribe
import PathKeeper.Proofs.Bridge.Ascii
import PathKeeper.Proofs.Bridge.Writer

/-!
# What the writer leaves

The turns of the scribe can be put off: as long as messages come, working later comes to the same as
working now. When it ends, the outlet has taken the front of what there was to write, and the last
answer tells why it is not all. On a sink it leaves what the lines leave there.
-/

namespace PathKeeper.Bridge

set_option autoImplicit false

namespace Message

theorem bytes_eq (message : Message) : message.bytes = message.line.map Char.toUInt8 :=
  Text.encode_of_isAscii message.isAscii_line

theorem encode_flatMap_line (messages : List Message) :
    Text.Utf8.encode (messages.flatMap line) = messages.flatMap bytes := by
  rw [Text.Utf8.encode, List.flatMap_assoc]
  rfl

end Message

namespace Scribe

variable {outlet : Outlet} {scribe : Scribe} {messages : List Message}

/-! ## Turns -/

theorem step_of_ended {ending : Ending} (h : scribe.ending = some ending)
    (messages : List Message) : scribe.step outlet messages = (scribe, messages) := by
  unfold step
  rw [h]

theorem finish_of_ended {ending : Ending} (h : scribe.ending = some ending)
    (messages : List Message) : scribe.finish outlet messages = scribe := by
  rw [finish, dif_neg (by simp [h])]

theorem exists_ending_of_isGone (h : scribe.isGone = true) :
    ∃ ending, scribe.ending = some ending := by
  unfold isGone at h
  split at h
  · cases h
  · cases h
  · next ending _ hended => exact ⟨ending, hended⟩

/-- Nothing is at hand and nothing has ended. -/
def IsIdle (scribe : Scribe) : Prop := scribe.ending = none ∧ scribe.line = none

theorem step_of_isIdle (h : scribe.IsIdle) : scribe.step outlet [] = (scribe, []) := by
  unfold step
  rw [h.1, h.2]

theorem finish_step (scribe : Scribe) (messages : List Message) :
    (scribe.step outlet messages).1.finish outlet (scribe.step outlet messages).2 =
      scribe.finish outlet messages := by
  cases hending : scribe.ending with
  | some ending => rw [step_of_ended hending]
  | none =>
    by_cases hleft : scribe.line = none ∧ messages = []
    · obtain ⟨hline, rfl⟩ := hleft
      rw [step_of_isIdle ⟨hending, hline⟩]
    · rw [finish.eq_def outlet scribe, dif_pos hending, dif_neg hleft]

/-- Messages that come later do not change a turn, unless the scribe waits for them. -/
theorem step_append (h : ¬ (scribe.IsIdle ∧ messages = [])) (later : List Message) :
    scribe.step outlet (messages ++ later) =
      ((scribe.step outlet messages).1, (scribe.step outlet messages).2 ++ later) := by
  unfold step
  cases hending : scribe.ending with
  | some ending => rfl
  | none =>
    cases hline : scribe.line with
    | some rest => cases rest <;> rfl
    | none =>
      cases messages with
      | nil => exact absurd ⟨⟨hending, hline⟩, rfl⟩ h
      | cons message rest => rfl

/-- A turn may be made before or after more messages come. -/
theorem finish_step_append (scribe : Scribe) (messages later : List Message) :
    (scribe.step outlet messages).1.finish outlet ((scribe.step outlet messages).2 ++ later) =
      scribe.finish outlet (messages ++ later) := by
  by_cases h : scribe.IsIdle ∧ messages = []
  · obtain ⟨hidle, rfl⟩ := h
    rw [step_of_isIdle hidle]
  · rw [← finish_step scribe, step_append h]

/-! ## What has been written -/

/-- The outlet has been offered front parts of what there is to write, always behind what it had
taken, and has given these answers. -/
inductive Dialogue (outlet : Outlet) (whole : List UInt8) : List Answer → List UInt8 → Prop where
  | nil : Dialogue outlet whole [] []
  | wrote {past : List Answer} {taken offered : List UInt8} {n : Nat}
      (h : Dialogue outlet whole past taken) (hoffered : offered ≠ [])
      (hfront : taken ++ offered <+: whole) (hanswer : outlet.write past taken offered = .ok n) :
      Dialogue outlet whole (past ++ [.write (.ok n)]) (taken ++ offered.take n)
  | broke {past : List Answer} {taken offered : List UInt8} {mishap : Mishap}
      (h : Dialogue outlet whole past taken) (hoffered : offered ≠ [])
      (hfront : taken ++ offered <+: whole)
      (hanswer : outlet.write past taken offered = .error mishap) :
      Dialogue outlet whole (past ++ [.write (.error mishap)]) taken
  | flushed {past : List Answer} {taken : List UInt8} (h : Dialogue outlet whole past taken) :
      Dialogue outlet whole (past ++ [.flush (outlet.flush past taken)]) taken

/-- Nothing has been lost of what there is to write, and only the last answer may have ended the
work. -/
structure IsSound (outlet : Outlet) (whole : List UInt8) (scribe : Scribe)
    (messages : List Message) : Prop where
  carries : scribe.output ++ (scribe.line.getD [] ++ messages.flatMap Message.bytes) = whole
  dialogue : Dialogue outlet whole scribe.answers scribe.output
  underway : scribe.ending = none → ∀ answer ∈ scribe.answers, answer.ending? = none
  ended : ∀ ending, scribe.ending = some ending → ∃ earlier last,
    scribe.answers = earlier ++ [last] ∧ (∀ answer ∈ earlier, answer.ending? = none) ∧
      last.ending? = some ending

theorem isSound_fresh (outlet : Outlet) (messages : List Message) :
    IsSound outlet (messages.flatMap Message.bytes) fresh messages where
  carries := rfl
  dialogue := .nil
  underway _ _ h := by cases h
  ended _ h := by cases h

variable {whole : List UInt8}

/-- Only a write carries on the line at hand, and a flush comes only when nothing is left of it. -/
def Fits (scribe : Scribe) : Answer → Prop
  | .write _ => scribe.line ≠ none
  | .flush _ => scribe.line = some []

theorem carries_advance {answer : Answer} (hfits : scribe.Fits answer) :
    (scribe.advance answer).output ++ (scribe.advance answer).line.getD [] =
      scribe.output ++ scribe.line.getD [] := by
  match answer with
  | .write (.ok n) => simp [advance]
  | .write (.error mishap) => rfl
  | .flush (.ok ()) => simp [advance, show scribe.line = some [] from hfits]
  | .flush (.error mishap) => rfl

theorem IsSound.hear (h : IsSound outlet whole scribe messages) (hending : scribe.ending = none)
    {answer : Answer} (hfits : scribe.Fits answer)
    (hdialogue : Dialogue outlet whole (scribe.answers ++ [answer])
      (scribe.advance answer).output) :
    IsSound outlet whole (scribe.hear answer) messages where
  carries := by
    rw [← h.carries, ← List.append_assoc, ← List.append_assoc]
    exact congrArg (· ++ _) (carries_advance hfits)
  dialogue := hdialogue
  underway hnone other hother := by
    rcases List.mem_append.mp hother with hearlier | hlast
    · exact h.underway hending other hearlier
    · rw [List.mem_singleton.mp hlast]
      exact hnone
  ended ending hended := ⟨scribe.answers, answer, rfl, h.underway hending, hended⟩

theorem IsSound.hear_write (h : IsSound outlet whole scribe messages)
    (hending : scribe.ending = none) {rest : List UInt8} (hline : scribe.line = some rest)
    (hrest : rest ≠ []) :
    IsSound outlet whole
      (scribe.hear (.write (outlet.write scribe.answers scribe.output rest))) messages := by
  have hfront : scribe.output ++ rest <+: whole := by
    refine ⟨messages.flatMap Message.bytes, ?_⟩
    rw [← h.carries, hline, Option.getD_some, List.append_assoc]
  apply h.hear hending (by simp [Fits, hline])
  cases hanswer : outlet.write scribe.answers scribe.output rest with
  | ok n =>
    have hwrote := h.dialogue.wrote hrest hfront hanswer
    simpa [advance, hline] using hwrote
  | error mishap => exact h.dialogue.broke hrest hfront hanswer

theorem IsSound.hear_flush (h : IsSound outlet whole scribe messages)
    (hending : scribe.ending = none) (hline : scribe.line = some []) :
    IsSound outlet whole (scribe.hear (.flush (outlet.flush scribe.answers scribe.output)))
      messages := by
  have hsame (result : Except Mishap Unit) :
      (scribe.advance (.flush result)).output = scribe.output := by
    cases result <;> rfl
  refine h.hear hending hline ?_
  rw [hsame]
  exact h.dialogue.flushed

theorem IsSound.step (h : IsSound outlet whole scribe messages) :
    IsSound outlet whole (scribe.step outlet messages).1 (scribe.step outlet messages).2 := by
  unfold Scribe.step
  split
  · exact h
  · next hending hline => exact h.hear_flush hending hline
  · next hending hline => exact h.hear_write hending hline (List.cons_ne_nil _ _)
  · next hline =>
    refine ⟨?_, h.dialogue, h.underway, h.ended⟩
    rw [← h.carries, hline]
    simp
  · exact h

/-- How a scribe may have ended: with everything written and no complaint, or with a front part
written and an answer that says why. -/
inductive Ended (whole : List UInt8) (scribe : Scribe) : Ending → Prop where
  | complete (count : Nat) (houtput : scribe.output = whole)
      (hanswers : ∀ answer ∈ scribe.answers, answer.ending? = none) :
      Ended whole scribe (.complete count)
  | cut (ending : Ending) (houtput : scribe.output <+: whole) (earlier : List Answer)
      (last : Answer) (hanswers : scribe.answers = earlier ++ [last])
      (hearlier : ∀ answer ∈ earlier, answer.ending? = none) (hlast : last.ending? = some ending) :
      Ended whole scribe ending

theorem IsSound.finish (h : IsSound outlet whole scribe messages) :
    ∃ ending, (scribe.finish outlet messages).ending = some ending ∧
      Dialogue outlet whole (scribe.finish outlet messages).answers
        (scribe.finish outlet messages).output ∧
      Ended whole (scribe.finish outlet messages) ending := by
  fun_induction Scribe.finish outlet scribe messages with
  | case1 scribe messages hending hleft =>
    refine ⟨_, rfl, h.dialogue, .complete _ ?_ (h.underway hending)⟩
    obtain ⟨hline, rfl⟩ := hleft
    simpa [hline] using h.carries
  | case2 scribe messages hending hleft ih => exact ih h.step
  | case3 scribe messages hending =>
    obtain ⟨ending, hended⟩ := Option.ne_none_iff_exists'.mp hending
    obtain ⟨earlier, last, hanswers, hearlier, hlast⟩ := h.ended ending hended
    exact ⟨ending, hended, h.dialogue,
      .cut ending ⟨_, h.carries⟩ earlier last hanswers hearlier hlast⟩

/-! ## Sending -/

/-- Whatever is sent after these messages, the scribe will leave the same as if all had been there
from the start. A queue is closed only when nothing depends on it any more. -/
structure IsSent (outlet : Outlet) (sent : List Message) (scribe : Scribe) (queue : Queue) :
    Prop where
  fate : ∀ later, scribe.finish outlet (queue.messages ++ later) =
    fresh.finish outlet (sent ++ later)
  ended_of_closed : queue.isOpen = false → scribe.ending ≠ none

theorem isSent_fresh (outlet : Outlet) : IsSent outlet [] fresh .empty where
  fate _ := rfl
  ended_of_closed h := by cases h

namespace IsSent

variable {sent : List Message} {queue : Queue}

theorem turn (h : IsSent outlet sent scribe queue) :
    IsSent outlet sent (scribe.turn outlet queue).1 (scribe.turn outlet queue).2 := by
  have hfate (later : List Message) := finish_step_append scribe queue.messages later ▸ h.fate later
  unfold Scribe.turn
  simp only
  cases hgone : (scribe.step outlet queue.messages).1.isGone with
  | true =>
    obtain ⟨ending, hended⟩ := exists_ending_of_isGone hgone
    refine ⟨fun later => ?_, fun _ => by simp [hended]⟩
    rw [← hfate later, if_pos rfl, finish_of_ended hended, finish_of_ended hended]
  | false =>
    refine ⟨hfate, fun hclosed => ?_⟩
    obtain ⟨ending, hended⟩ := Option.ne_none_iff_exists'.mp (h.ended_of_closed hclosed)
    rw [step_of_ended hended, hended]
    exact Option.some_ne_none ending

theorem send (h : IsSent outlet sent scribe queue) (message : Message) :
    IsSent outlet (sent ++ [message]) scribe (queue.send message) := by
  cases hopen : queue.isOpen with
  | true =>
    rw [Queue.send_of_open hopen]
    refine ⟨fun later => ?_, fun hclosed => by cases hclosed⟩
    rw [List.append_assoc, List.append_assoc, h.fate]
  | false =>
    obtain ⟨ending, hended⟩ := Option.ne_none_iff_exists'.mp (h.ended_of_closed hopen)
    rw [Queue.send_of_closed hopen]
    refine ⟨fun later => ?_, h.ended_of_closed⟩
    rw [List.append_assoc, ← h.fate, finish_of_ended hended, finish_of_ended hended]

end IsSent

/-! ## Sinks -/

theorem write_outlet (sink : Sink) (past : List Answer) (taken offered : List UInt8) :
    sink.outlet.write past taken offered =
      if sink.isExhausted taken.length then sink.stop.answer
      else .ok (sink.takes taken.length offered.length) := rfl

theorem flush_outlet (sink : Sink) (past : List Answer) (taken : List UInt8) :
    (flushFailure sink taken.length = none ∧ sink.outlet.flush past taken = .ok ()) ∨
      ∃ text, flushFailure sink taken.length = some (.io text) ∧
        sink.outlet.flush past taken = .error (.failure text) := by
  unfold flushFailure Sink.outlet
  cases sink.flushFault with
  | none => exact .inl ⟨rfl, rfl⟩
  | some fault =>
    by_cases hlimit : fault.1 ≤ taken.length
    · exact .inr ⟨fault.2, by simp [hlimit], by simp [hlimit]⟩
    · exact .inl ⟨by simp [hlimit], by simp [hlimit]⟩

/-- A write without room left takes nothing and ends the work. -/
theorem hear_stop (scribe : Scribe) (stop : Stop) :
    (scribe.hear (.write stop.answer)).output = scribe.output ∧
      (scribe.hear (.write stop.answer)).ending = some stop.ending := by
  cases stop <;> simp [Stop.answer, Stop.ending, hear, advance, Answer.ending?, Mishap.ending]

theorem step_flush (outlet : Outlet) (output : List UInt8) (count : Nat) (answers : List Answer)
    (messages : List Message) :
    step outlet ⟨output, count, some [], answers, none⟩ messages =
      (hear ⟨output, count, some [], answers, none⟩ (.flush (outlet.flush answers output)),
        messages) := rfl

theorem step_write (outlet : Outlet) (output : List UInt8) (count : Nat) (b : UInt8)
    (rest : List UInt8) (answers : List Answer) (messages : List Message) :
    step outlet ⟨output, count, some (b :: rest), answers, none⟩ messages =
      (hear ⟨output, count, some (b :: rest), answers, none⟩
        (.write (outlet.write answers output (b :: rest))), messages) := rfl

/-- What is left to write goes to a sink as lines do. -/
def GoesAsLines (sink : Sink) (scribe : Scribe) (messages : List Message) : Prop :=
  let written := writeLines sink scribe.output.length scribe.count
    (scribe.line.toList ++ messages.map Message.bytes)
  let last := scribe.finish sink.outlet messages
  last.output = scribe.output ++ written.1 ∧ last.ending = some written.2

section GoesAsLines

variable {sink : Sink} {output : List UInt8} {count : Nat} {answers : List Answer}

theorem goesAsLines_flush
    (hnext : let next := step sink.outlet ⟨output, count, some [], answers, none⟩ messages
      next.1.ending = none → GoesAsLines sink next.1 next.2) :
    GoesAsLines sink ⟨output, count, some [], answers, none⟩ messages := by
  simp only [GoesAsLines, step_flush] at hnext ⊢
  rw [← finish_step, step_flush]
  simp only [Option.toList_some, List.singleton_append, writeLines_nil_cons]
  rcases flush_outlet sink answers output with ⟨hfailure, hflush⟩ | ⟨text, hfailure, hflush⟩
  · rw [hflush] at hnext ⊢
    rw [hfailure]
    exact hnext rfl
  · rw [hflush, hfailure, finish_of_ended rfl]
    exact ⟨(List.append_nil _).symm, rfl⟩

theorem goesAsLines_write {b : UInt8} {rest : List UInt8}
    (hnext : let next := step sink.outlet ⟨output, count, some (b :: rest), answers, none⟩ messages
      next.1.ending = none → GoesAsLines sink next.1 next.2) :
    GoesAsLines sink ⟨output, count, some (b :: rest), answers, none⟩ messages := by
  have hline : b :: rest ≠ [] := List.cons_ne_nil b rest
  simp only [GoesAsLines, step_write, write_outlet] at hnext ⊢
  rw [← finish_step, step_write, write_outlet]
  simp only [Option.toList_some, List.singleton_append]
  by_cases hroom : sink.isExhausted output.length = true
  · obtain ⟨houtput, hended⟩ := hear_stop ⟨output, count, some (b :: rest), answers, none⟩ sink.stop
    rw [if_pos hroom, finish_of_ended hended, writeLines_of_isExhausted hline hroom]
    exact ⟨by rw [houtput, List.append_nil], hended⟩
  · rw [if_neg hroom] at hnext ⊢
    cases htakes : sink.takes output.length (b :: rest).length with
    | zero =>
      rw [finish_of_ended rfl, writeLines_of_takes_eq_zero hline hroom htakes]
      exact ⟨rfl, rfl⟩
    | succ n =>
      have hle : n + 1 ≤ (b :: rest).length := htakes ▸ sink.takes_le _ _
      have hlength : (output ++ (b :: rest).take (n + 1)).length = output.length + (n + 1) := by
        rw [List.length_append, List.length_take, Nat.min_eq_left hle]
      rw [writeLines_of_takes hline hroom htakes (Nat.succ_ne_zero n), ← List.append_assoc,
        ← hlength]
      rw [htakes] at hnext
      exact hnext rfl

theorem goesAsLines_of_ending_eq_none (sink : Sink) (hending : scribe.ending = none)
    (messages : List Message) : GoesAsLines sink scribe messages := by
  fun_induction Scribe.finish sink.outlet scribe messages with
  | case1 scribe messages _ hleft =>
    obtain ⟨hline, rfl⟩ := hleft
    simp [GoesAsLines, finish, hending, hline, writeLines]
  | case2 scribe messages _ hleft ih =>
    obtain ⟨output, count, line, answers, ending⟩ := scribe
    simp only at hending hleft
    subst hending
    cases line with
    | some rest =>
      cases rest with
      | nil => exact goesAsLines_flush ih
      | cons b rest => exact goesAsLines_write ih
    | none =>
      cases messages with
      | nil => exact absurd ⟨rfl, rfl⟩ hleft
      | cons message messages =>
        rw [GoesAsLines, ← finish_step]
        exact ih rfl
  | case3 scribe messages hended => exact absurd hending hended

end GoesAsLines

/-- A scribe leaves on a sink the bytes of what is written there in characters. -/
theorem finish_fresh_outlet (sink : Sink) (messages : List Message) :
    let written := Bridge.write sink (messages.map Message.line)
    let last := fresh.finish sink.outlet messages
    last.output = Text.Utf8.encode written.1 ∧ last.ending = some written.2 := by
  intro written last
  have hbytes : messages.map Message.bytes =
      (messages.map Message.line).map (List.map Char.toUInt8) := by
    rw [List.map_map]
    exact List.map_congr_left fun message _ => message.bytes_eq
  have hascii : Text.IsAscii written.1 := by
    intro c hc
    obtain ⟨line, hline, hmem⟩ := List.mem_flatten.mp (writeLines_subset sink 0 0 _ hc)
    obtain ⟨message, -, rfl⟩ := List.mem_map.mp hline
    exact message.isAscii_line c hmem
  have hwritten : writeLines sink 0 0 (messages.map Message.bytes) =
      (Text.Utf8.encode written.1, written.2) := by
    rw [hbytes, writeLines_map, Text.encode_of_isAscii hascii]
    rfl
  have hfresh : fresh.ending = none := rfl
  have hlast : last.output = (writeLines sink 0 0 (messages.map Message.bytes)).1 ∧
      last.ending = some (writeLines sink 0 0 (messages.map Message.bytes)).2 :=
    goesAsLines_of_ending_eq_none sink hfresh messages
  rwa [hwritten] at hlast

end Scribe

end PathKeeper.Bridge
