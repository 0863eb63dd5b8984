import PathKeeper.Text.Quoted

/-!
# What can be wrong with a JSON text

A decoder reports the first fault that it meets from the left, be it one of the grammar or one of
the expected type.
-/

namespace PathKeeper.Json

set_option autoImplicit false

/-- The construct that was being read when the text ended. -/
inductive Scope where
  | object | list | string | value
  deriving DecidableEq, Repr

def Scope.phrase : Scope → String
  | .object => "an object"
  | .list => "a list"
  | .string => "a string"
  | .value => "a value"

/-- A value as it is named when it is not the one expected. -/
inductive Found where
  | null
  | boolean (b : Bool)
  | integer (n : Int)
  /-- A number that is no 64-bit integer, by its decimal text. -/
  | float (text : String)
  | string (s : String)
  | sequence
  | map
  deriving DecidableEq, Repr

def Found.phrase : Found → String
  | .null => "null"
  | .boolean b => s!"boolean `{b}`"
  | .integer n => s!"integer `{n}`"
  | .float text => s!"floating point `{text}`"
  | .string s => s!"string {Text.quoted s}"
  | .sequence => "sequence"
  | .map => "map"

/-- What a decoder expects in some place. -/
inductive Expected where
  | string
  | sequence
  | unit
  | address
  | unsigned
  | variant
  | stringOrMap
  | singleMember
  | record (name : String)
  | recordOf (name : String) (fields : Nat)
  | tagged (name : String)
  | variantOf (name : String) (fields : Nat)
  | itemsOf (count : Nat)
  deriving DecidableEq, Repr

def counted (n : Nat) : String :=
  if n = 1 then "1 element" else s!"{n} elements"

def Expected.phrase : Expected → String
  | .string => "a string"
  | .sequence => "a sequence"
  | .unit => "unit"
  | .address => "IP address"
  | .unsigned => "usize"
  | .variant => "variant identifier"
  | .stringOrMap => "string or map"
  | .singleMember => "map with a single key"
  | .record name => s!"struct {name}"
  | .recordOf name fields => s!"struct {name} with {counted fields}"
  | .tagged name => s!"internally tagged enum {name}"
  | .variantOf name fields => s!"struct variant {name} with {counted fields}"
  | .itemsOf count => s!"{counted count} in sequence"

inductive Fault where
  | ended (scope : Scope)
  | expectedValue
  | expectedIdent
  | expectedColon
  | expectedListSeparator
  | expectedObjectSeparator
  | keyNotString
  | trailingComma
  | trailingCharacters
  | invalidNumber
  | numberOutOfRange
  | invalidEscape
  | controlCharacter
  | loneSurrogate
  | hexEscapeEnd
  | tooDeep
  | wrongType (found : Found) (expected : Expected)
  | wrongValue (found : Found) (expected : Expected)
  | wrongLength (length : Nat) (expected : Expected)
  | unknownVariant (name : String) (known : List String)
  | missingField (name : String)
  | duplicateField (name : String)
  | malformedAddress
  | other (text : String)
  deriving DecidableEq, Repr

def ticked (name : String) : String := s!"`{name}`"

/-- The choice between the known names. -/
def oneOf : List String → String
  | [a, b] => s!"{ticked a} or {ticked b}"
  | [a] => ticked a
  | names => "one of " ++ ", ".intercalate (names.map ticked)

def Fault.message : Fault → String
  | .ended scope => s!"EOF while parsing {scope.phrase}"
  | .expectedValue => "expected value"
  | .expectedIdent => "expected ident"
  | .expectedColon => "expected `:`"
  | .expectedListSeparator => "expected `,` or `]`"
  | .expectedObjectSeparator => "expected `,` or `\x7d`"
  | .keyNotString => "key must be a string"
  | .trailingComma => "trailing comma"
  | .trailingCharacters => "trailing characters"
  | .invalidNumber => "invalid number"
  | .numberOutOfRange => "number out of range"
  | .invalidEscape => "invalid escape"
  | .controlCharacter =>
    "control character (\\u0000-\\u001F) found while parsing a string"
  | .loneSurrogate => "lone leading surrogate in hex escape"
  | .hexEscapeEnd => "unexpected end of hex escape"
  | .tooDeep => "recursion limit exceeded"
  | .wrongType found expected => s!"invalid type: {found.phrase}, expected {expected.phrase}"
  | .wrongValue found expected => s!"invalid value: {found.phrase}, expected {expected.phrase}"
  | .wrongLength length expected => s!"invalid length {length}, expected {expected.phrase}"
  | .unknownVariant name known => s!"unknown variant {ticked name}, expected {oneOf known}"
  | .missingField name => s!"missing field {ticked name}"
  | .duplicateField name => s!"duplicate field {ticked name}"
  | .malformedAddress => "invalid IP address syntax"
  | .other text => text

end PathKeeper.Json
