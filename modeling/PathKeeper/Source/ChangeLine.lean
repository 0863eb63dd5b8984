import PathKeeper.Network
import PathKeeper.Text.Blank

/-!
# Lines of changes

A line holds a change as JSON, or nothing but blanks.
-/

namespace PathKeeper.Source

set_option autoImplicit false

/-- The change of a line; none if the line is blank. -/
def decodeChars (line : List Char) : Except Json.Fault (Option Change) :=
  if Text.trim line = [] then .ok none
  else
    match Json.readWhole Change.read (Text.trim line) with
    | .ok change => .ok (some change)
    | .error fault => .error fault

def lineFailure (fault : Json.Fault) : Failure :=
  .pathSource s!"malformed change line: {fault.message}"

def decodeLine (line : String) : Except Failure (Option Change) :=
  match decodeChars line.toList with
  | .ok change => .ok change
  | .error fault => .error (lineFailure fault)

end PathKeeper.Source
