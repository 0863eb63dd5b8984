import PathKeeper.Failure

/-!
# Writing lines

Lines are written one after another, each followed by a flush. A sink may take only part of what it
is offered, and may stop: then the lines behind are not written. The unit `α` of a line is a byte;
lines of ASCII may as well be taken as characters.
-/

namespace PathKeeper.Bridge

set_option autoImplicit false

variable {α : Type}

/-- What happens to a write when there is no room left. -/
inductive Stop where
  | failure (text : String)
  /-- Nothing is taken. -/
  | zero
  /-- The write never ends. -/
  | stall
  | panic
  deriving DecidableEq, Repr

structure Sink where
  /-- How much there is room for, if that is limited. -/
  room : Option Nat
  /-- How much one write takes at most. -/
  chunk : Option Nat
  stop : Stop
  /-- When so much has been written flushing fails, with the given text. -/
  flushFault : Option (Nat × String)
  deriving DecidableEq, Repr

inductive Ending where
  | complete (lines : Nat)
  | failed (failure : Failure)
  | stalled
  | panicked
  deriving DecidableEq, Repr

/-- The failure of a write that takes nothing. -/
def zeroFailure : Failure := .io "write zero"

def Stop.ending : Stop → Ending
  | .failure text => .failed (.io text)
  | .zero => .failed zeroFailure
  | .stall => .stalled
  | .panic => .panicked

namespace Sink

def unlimited : Sink := ⟨none, none, .zero, none⟩

def atMost (limit : Option Nat) (n : Nat) : Nat :=
  match limit with
  | some m => min m n
  | none => n

/-- Whether a sink that has taken `taken` has no room left. -/
def isExhausted (sink : Sink) (taken : Nat) : Bool :=
  match sink.room with
  | some room => room ≤ taken
  | none => false

/-- How much of `offered` one write takes. -/
def takes (sink : Sink) (taken offered : Nat) : Nat :=
  atMost sink.chunk (atMost (sink.room.map (· - taken)) offered)

theorem atMost_le (limit : Option Nat) (n : Nat) : atMost limit n ≤ n := by
  cases limit with
  | none => exact Nat.le_refl n
  | some m => exact Nat.min_le_right m n

theorem takes_le (sink : Sink) (taken offered : Nat) : sink.takes taken offered ≤ offered :=
  Nat.le_trans (atMost_le _ _) (atMost_le _ _)

end Sink

/-- Writes one line to a sink that has taken `taken`: what it takes of it, and how writing ends if
it does. -/
def writeLine (sink : Sink) (taken : Nat) (line : List α) : List α × Option Ending :=
  if line = [] then ([], none)
  else if sink.isExhausted taken then ([], some sink.stop.ending)
  else if _h : sink.takes taken line.length = 0 then ([], some (.failed zeroFailure))
  else
    let n := sink.takes taken line.length
    let rest := writeLine sink (taken + n) (line.drop n)
    (line.take n ++ rest.1, rest.2)
termination_by line.length
decreasing_by
  have := sink.takes_le taken line.length
  simp only [List.length_drop]
  omega

/-- What is taken of a line is a front part of it. -/
theorem writeLine_isPrefix (sink : Sink) (taken : Nat) (line : List α) :
    (writeLine sink taken line).1 <+: line := by
  fun_induction writeLine sink taken line with
  | case1 taken => exact List.nil_prefix
  | case2 taken line => exact List.nil_prefix
  | case3 taken line => exact List.nil_prefix
  | case4 taken line hne hroom hzero n rest ih =>
    obtain ⟨t, ht⟩ := ih
    exact ⟨t, by rw [List.append_assoc, ht, List.take_append_drop]⟩

def flushFailure (sink : Sink) (taken : Nat) : Option Failure :=
  match sink.flushFault with
  | some (limit, text) => if limit ≤ taken then some (.io text) else none
  | none => none

/-- Writes lines behind `count` others of the length `taken`. -/
def writeLines (sink : Sink) : Nat → Nat → List (List α) → List α × Ending
  | _, count, [] => ([], .complete count)
  | taken, count, line :: lines =>
    match writeLine sink taken line with
    | (written, some ending) => (written, ending)
    | (written, none) =>
      match flushFailure sink (taken + written.length) with
      | some failure => (written, .failed failure)
      | none =>
        let rest := writeLines sink (taken + written.length) (count + 1) lines
        (written ++ rest.1, rest.2)

/-- Writes lines to a fresh sink: what it takes, and how writing ends. -/
def write (sink : Sink) (lines : List (List α)) : List α × Ending := writeLines sink 0 0 lines

/-- What the log says when all lines are written. -/
def closingText (lines : Nat) : String := s!"Outbound bridge closed after {lines} lines"

end PathKeeper.Bridge
