import PathKeeper.Source.Arrival
import PathKeeper.Source.ChangeLine
import PathKeeper.Source.Lines

/-!
# Readings

What each line of an input brings: a change, or only an entry in the log. The first line that is no
text ends the input. A reader is asked for more until it has no more bytes or fails, and is not
asked again then.
-/

namespace PathKeeper.Source

set_option autoImplicit false

/-- What a line brings. -/
inductive Reading where
  | reported (change : Change)
  | blank
  | malformed (failure : Failure)
  /-- Nothing can be read any more. -/
  | broken (reason : String)
  deriving DecidableEq, Repr

namespace Reading

def change? : Reading → Option Change
  | .reported change => some change
  | _ => none

def entries : Reading → List Log.Entry
  | .reported change =>
    [Log.debug
      s!"Decoded change for {change.identity.token} ({change.resolvers.length} resolvers)"]
  | .blank => []
  | .malformed failure => [Log.warn s!"Skipping line: {failure.message}"]
  | .broken reason => [Log.error s!"Failed to read change line: {reason}"]

def arrival (reading : Reading) : Arrival := ⟨reading.entries, reading.change?⟩

def ofText (text : List Char) : Reading :=
  match decodeChars text with
  | .ok (some change) => .reported change
  | .ok none => .blank
  | .error fault => .malformed (lineFailure fault)

def ofLine (line : List UInt8) : Reading :=
  match lineText line with
  | .ok text => ofText text
  | .error fault => .broken fault.message

end Reading

/-- How an input ends. -/
inductive Ending where
  | eof
  | failure (reason : String)
  /-- It does not; nothing more comes. -/
  | idle
  deriving DecidableEq, Repr

/-- What a reader answers: the next bytes, none at the end of the input, or why it failed. -/
abbrev Answer := Except String (List UInt8)

/-- An input that is being read. -/
structure Feed where
  /-- The bytes of the unfinished line. -/
  unfinished : List UInt8
  isBroken : Bool
  deriving DecidableEq, Repr

namespace Feed

def start : Feed := ⟨[], false⟩

/-- The readings up to the first broken one, and whether there is one. -/
def untilBroken : List (List UInt8) → List Reading × Bool
  | [] => ([], false)
  | line :: lines =>
    match Reading.ofLine line with
    | .broken reason => ([.broken reason], true)
    | reading =>
      let rest := untilBroken lines
      (reading :: rest.1, rest.2)

def take (chunk : List UInt8) (feed : Feed) : List Reading × Feed :=
  if feed.isBroken then ([], feed)
  else
    let (lines, rest) := feedLines feed.unfinished chunk
    let (readings, isBroken) := untilBroken lines
    (readings, ⟨rest, isBroken⟩)

/-- What the end of the input brings: an unfinished line counts only at the end of a file. -/
def finish (ending : Ending) (feed : Feed) : List Reading :=
  if feed.isBroken then []
  else
    match ending with
    | .eof => if feed.unfinished = [] then [] else [.ofLine feed.unfinished]
    | .failure reason => [.broken reason]
    | .idle => []

def takeAll : List (List UInt8) → Feed → List Reading × Feed
  | [], feed => ([], feed)
  | chunk :: chunks, feed =>
    let first := feed.take chunk
    let rest := takeAll chunks first.2
    (first.1 ++ rest.1, rest.2)

/-- Whether nothing can come any more after the input has ended. -/
def closes (ending : Ending) (feed : Feed) : Bool := feed.isBroken || ending != .idle

end Feed

def readings (chunks : List (List UInt8)) (ending : Ending) : List Reading :=
  let (begun, feed) := Feed.start.takeAll chunks
  begun ++ feed.finish ending

def changes (chunks : List (List UInt8)) (ending : Ending) : List Change :=
  (readings chunks ending).filterMap Reading.change?

/-- Whether an input comes to an end by itself. -/
def closes (chunks : List (List UInt8)) (ending : Ending) : Bool :=
  (Feed.start.takeAll chunks).2.closes ending

/-- The warning about an input that is read a second time; it brings nothing then. -/
def secondReading : Log.Entry :=
  Log.warn "JSON lines source watched twice, returning empty stream"

end PathKeeper.Source
