import PathKeeper.Bridge.Queue
import PathKeeper.Bridge.Writer
import PathKeeper.Text.Utf8

/-!
# The writer at work

An outlet takes bytes one call at a time. It may take only a part of what it is offered, and any
call may fail, hang or panic. The scribe takes messages off the queue and writes them to the outlet. It
works in turns: in a turn it makes one call or takes one message.
-/

namespace PathKeeper.Bridge

set_option autoImplicit false

/-- Why a call comes to nothing. -/
inductive Mishap where
  | failure (text : String)
  /-- The call never returns. -/
  | stall
  | panic
  deriving DecidableEq, Repr

inductive Answer where
  | write (result : Except Mishap Nat)
  | flush (result : Except Mishap Unit)
  deriving Repr

/-- Where bytes go. What a call comes to may depend on all that came before. -/
structure Outlet where
  /-- How much is taken of what is offered. -/
  write (past : List Answer) (taken offered : List UInt8) : Except Mishap Nat
  flush (past : List Answer) (taken : List UInt8) : Except Mishap Unit
  write_le {past : List Answer} {taken offered : List UInt8} {n : Nat} :
    write past taken offered = .ok n → n ≤ offered.length

def Mishap.ending : Mishap → Ending
  | .failure text => .failed (.io text)
  | .stall => .stalled
  | .panic => .panicked

/-- How writing ends with an answer, if it does. A write that takes nothing counts as failed. -/
def Answer.ending? : Answer → Option Ending
  | .write (.ok 0) => some (.failed zeroFailure)
  | .write (.ok _) => none
  | .write (.error mishap) => some mishap.ending
  | .flush (.ok ()) => none
  | .flush (.error mishap) => some mishap.ending

/-- Whether a write failed or took nothing, a flush failed, or there was a panic. -/
def Answer.isFault : Answer → Bool
  | .write (.ok n) => n = 0
  | .write (.error mishap) => mishap ≠ .stall
  | .flush (.ok ()) => false
  | .flush (.error mishap) => mishap ≠ .stall

/-- Whether a call never returned. -/
def Answer.isStall : Answer → Bool
  | .write (.error .stall) => true
  | .flush (.error .stall) => true
  | _ => false

/-- What a write without room left comes to. -/
def Stop.answer : Stop → Except Mishap Nat
  | .failure text => .error (.failure text)
  | .zero => .ok 0
  | .stall => .error .stall
  | .panic => .error .panic

theorem Stop.answer_eq_ok {stop : Stop} {n : Nat} (h : stop.answer = .ok n) : n = 0 := by
  cases stop <;> simp_all [answer]

def Sink.outlet (sink : Sink) : Outlet where
  write _ taken offered :=
    if sink.isExhausted taken.length then sink.stop.answer
    else .ok (sink.takes taken.length offered.length)
  flush _ taken :=
    match sink.flushFault with
    | some (limit, text) => if limit ≤ taken.length then .error (.failure text) else .ok ()
    | none => .ok ()
  write_le {_ taken offered n} h := by
    split at h
    · rw [Stop.answer_eq_ok h]
      exact Nat.zero_le _
    · rw [← Except.ok.inj h]
      exact sink.takes_le _ _

def Message.bytes (message : Message) : List UInt8 := Text.Utf8.encode message.line

structure Scribe where
  /-- What has been taken. -/
  output : List UInt8
  /-- How many lines are done. -/
  count : Nat
  /-- What is left of the line at hand. -/
  line : Option (List UInt8)
  /-- What the calls came to. -/
  answers : List Answer
  ending : Option Ending
  deriving Repr

namespace Scribe

def fresh : Scribe := ⟨[], 0, none, [], none⟩

/-- What an answer makes of the line at hand. -/
def advance (scribe : Scribe) : Answer → Scribe
  | .write (.ok n) =>
    let rest := scribe.line.getD []
    { scribe with output := scribe.output ++ rest.take n, line := some (rest.drop n) }
  | .flush (.ok ()) => { scribe with count := scribe.count + 1, line := none }
  | _ => scribe

def hear (scribe : Scribe) (answer : Answer) : Scribe :=
  { scribe.advance answer with
    answers := scribe.answers ++ [answer]
    ending := answer.ending? }

/-- What a turn makes of the scribe and of the messages that wait: what is left of the line is
offered, behind it comes a flush, and then the next message. Without one the scribe waits. -/
def step (outlet : Outlet) (scribe : Scribe) (messages : List Message) :
    Scribe × List Message :=
  match scribe.ending, scribe.line, messages with
  | some _, _, messages => (scribe, messages)
  | none, some [], messages =>
    (scribe.hear (.flush (outlet.flush scribe.answers scribe.output)), messages)
  | none, some (b :: rest), messages =>
    (scribe.hear (.write (outlet.write scribe.answers scribe.output (b :: rest))), messages)
  | none, none, message :: messages => ({ scribe with line := some message.bytes }, messages)
  | none, none, [] => (scribe, [])

/-- Whether the scribe has ended in a way that takes the queue with it. In a call that never returns
it holds on to it. -/
def isGone (scribe : Scribe) : Bool :=
  match scribe.ending with
  | none | some .stalled => false
  | some _ => true

/-- A turn. With the scribe the queue goes away. -/
def turn (outlet : Outlet) (scribe : Scribe) (queue : Queue) : Scribe × Queue :=
  let (scribe, messages) := scribe.step outlet queue.messages
  (scribe, if scribe.isGone then queue.close else { queue with messages })

/-- How much is left to do. -/
def work (scribe : Scribe) (messages : List Message) : Nat :=
  (if scribe.ending = none then 1 else 0) + (scribe.line.elim 0 fun rest => rest.length + 1) +
    ((messages.flatMap Message.bytes).length + 2 * messages.length)

theorem work_hear_write_lt {scribe : Scribe} {b : UInt8} {rest : List UInt8}
    (hending : scribe.ending = none) (hline : scribe.line = some (b :: rest))
    (result : Except Mishap Nat) (messages : List Message) :
    work (scribe.hear (.write result)) messages < work scribe messages := by
  match result with
  | .ok 0 => simp [work, hear, advance, Answer.ending?, hending, hline]
  | .ok (n + 1) =>
    simp only [work, hear, advance, Answer.ending?, hending, hline, if_true, Option.getD_some,
      Option.elim_some, List.drop_succ_cons, List.length_drop, List.length_cons]
    omega
  | .error mishap => simp [work, hear, advance, Answer.ending?, hending, hline]

theorem work_hear_flush_lt {scribe : Scribe} (hending : scribe.ending = none)
    (hline : scribe.line = some []) (result : Except Mishap Unit) (messages : List Message) :
    work (scribe.hear (.flush result)) messages < work scribe messages := by
  cases result <;> simp [work, hear, advance, Answer.ending?, hending, hline]

theorem work_step_lt (outlet : Outlet) {scribe : Scribe} {messages : List Message}
    (hending : scribe.ending = none) (hleft : ¬ (scribe.line = none ∧ messages = [])) :
    work (scribe.step outlet messages).1 (scribe.step outlet messages).2 <
      work scribe messages := by
  unfold step
  split
  · next hended => simp [hending] at hended
  · next hline => exact work_hear_flush_lt hending hline _ _
  · next hline => exact work_hear_write_lt hending hline _ _
  · next hline =>
    simp only [work, hending, hline, if_true, Option.elim_none, Option.elim_some,
      List.flatMap_cons, List.length_append, List.length_cons]
    omega
  · next hline => exact absurd ⟨hline, rfl⟩ hleft

/-- Works until it ends. No more messages come, so when all are written it ends well. -/
def finish (outlet : Outlet) (scribe : Scribe) (messages : List Message) : Scribe :=
  if _hending : scribe.ending = none then
    if _hleft : scribe.line = none ∧ messages = [] then
      { scribe with ending := some (.complete scribe.count) }
    else finish outlet (scribe.step outlet messages).1 (scribe.step outlet messages).2
  else scribe
termination_by work scribe messages
decreasing_by exact work_step_lt outlet _hending _hleft

end Scribe

end PathKeeper.Bridge
