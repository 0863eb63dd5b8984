import PathKeeper.Json.Chars
import PathKeeper.Text.Pieces

/-!
# Writing JSON

Lists and objects are written without blanks, members in the order given.
-/

namespace PathKeeper.Json

set_option autoImplicit false

open Text (joined)

/-- A list of values that have been written. -/
def writeList (items : List (List Char)) : List Char :=
  '[' :: (joined [','] items ++ [']'])

def writeMember : String × List Char → List Char
  | (key, value) => quote key ++ ':' :: value

def writeObject (members : List (String × List Char)) : List Char :=
  '\x7b' :: (joined [','] (members.map writeMember) ++ ['\x7d'])

end PathKeeper.Json
