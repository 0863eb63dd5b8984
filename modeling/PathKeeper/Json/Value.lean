import PathKeeper.Json.Reader

/-!
# Values of unknown type

Where the type of a record is one of its own members, the other members are read as they come and
decoded afterwards. Reading is limited to a depth of `maxDepth` lists and objects.
-/

namespace PathKeeper.Json

set_option autoImplicit false

inductive Value where
  | null
  | boolean (b : Bool)
  | integer (n : Int)
  | float (text : String)
  | string (s : String)
  | list (items : List Value)
  | object (members : List (String × Value))
  deriving Repr

def Value.found : Value → Found
  | .null => .null
  | .boolean b => .boolean b
  | .integer n => .integer n
  | .float text => .float text
  | .string s => .string s
  | .list _ => .sequence
  | .object _ => .map

def Value.ofNumber : Number → Value
  | .natural n => .integer n
  | .negative n => .integer n
  | .float text => .float text

/-- How many lists and objects may be open at once. -/
def maxDepth : Nat := 127

/-- Reads at most `bound` members of any kind, up to and with the closing brace. -/
def readAnyMembers (value : Reader Value) :
    Nat → Bool → Reader (List (String × Value))
  | 0, _, _ => .error (.ended .object)
  | bound + 1, first, s => do
    match ← nextKey first s with
    | .inr rest => .ok ([], rest)
    | .inl s =>
      let (key, s) ← readText s
      let s ← passColon s
      let (x, s) ← value s
      let (members, s) ← readAnyMembers value bound false s
      .ok ((key, x) :: members, s)

def readWord (due : List Char) (x : Value) (s : List Char) : Except Fault (Value × List Char) :=
  match readLetters due s with
  | .ok rest => .ok (x, rest)
  | .error f => .error f

def readNumberValue (positive : Bool) (s : List Char) : Except Fault (Value × List Char) :=
  match readNumber positive s with
  | .ok (n, rest) => .ok (.ofNumber n, rest)
  | .error f => .error f

/-- Reads any value with at most `depth` lists and objects open at once. -/
def readValue : Nat → Reader Value
  | depth, s =>
    match dropBlank s with
    | [] => .error (.ended .value)
    | c :: s =>
      if c = 'n' then readWord ['u', 'l', 'l'] .null s
      else if c = 't' then readWord ['r', 'u', 'e'] (.boolean true) s
      else if c = 'f' then readWord ['a', 'l', 's', 'e'] (.boolean false) s
      else if c = '-' then readNumberValue false s
      else if isDigit c then readNumberValue true (c :: s)
      else if c = '"' then do
        let (text, s) ← readText s
        .ok (.string text, s)
      else if c = '[' then
        match depth with
        | 0 => .error .tooDeep
        | depth + 1 => do
          let (items, s) ← readItems (readValue depth) (s.length + 1) true s
          .ok (.list items, s)
      else if c = '\x7b' then
        match depth with
        | 0 => .error .tooDeep
        | depth + 1 => do
          let (members, s) ← readAnyMembers (readValue depth) (s.length + 1) true s
          .ok (.object members, s)
      else .error .expectedValue
termination_by structural depth => depth

namespace Value

def toList {α : Type} (item : Value → Except Fault α) : Value → Except Fault (List α)
  | .list items => items.mapM item
  | x => .error (.wrongType x.found .sequence)

/-- Decodes the null that stands for no value; an empty object does as well. -/
def toUnit : Value → Except Fault Unit
  | .null => .ok ()
  | .object [] => .ok ()
  | x => .error (.wrongType x.found .unit)

def toName {α : Type} (names : Names α) : Value → Except Fault α
  | .string name => names.value name
  | .object [(name, x)] => do
    let y ← names.value name
    x.toUnit
    .ok y
  | .object _ => .error (.wrongValue .map .singleMember)
  | x => .error (.wrongType x.found .stringOrMap)

end Value

/-- What stands beside the name of a tagged record. -/
inductive Body where
  | listed (items : List Value)
  | keyed (members : List (String × Value))
  deriving Repr

namespace Body

/-- A body without fields: members do not matter, items do. -/
def toNothing : Body → Except Fault Unit
  | .listed [] => .ok ()
  | .listed items => .error (.wrongLength items.length (.itemsOf 0))
  | .keyed _ => .ok ()

/-- Collects the member `field` once; other members do not matter. -/
def findField {α : Type} (field : String) (decode : Value → Except Fault α) :
    Option α → List (String × Value) → Except Fault (Option α)
  | found, [] => .ok found
  | found, (key, x) :: members =>
    if key = field then
      if found.isSome then .error (.duplicateField field)
      else do
        let y ← decode x
        findField field decode (some y) members
    else findField field decode found members

/-- A body with the single field `field` of the variant `variant`. -/
def toField {α : Type} (variant field : String) (decode : Value → Except Fault α) :
    Body → Except Fault α
  | .listed [] => .error (.wrongLength 0 (.variantOf variant 1))
  | .listed (x :: items) => do
    let y ← decode x
    if items.isEmpty then .ok y else .error (.wrongLength (items.length + 1) (.itemsOf 1))
  | .keyed members => do
    match ← findField field decode none members with
    | some y => .ok y
    | none => .error (.missingField field)

end Body

/-- Reads at most `bound` members of a tagged record, of which `tag` names its type. -/
def readTaggedMembers {α : Type} (tag : String) (names : Names α) :
    Nat → Bool → Option α → Reader (Option α × List (String × Value))
  | 0, _, _, _ => .error (.ended .object)
  | bound + 1, first, found, s => do
    match ← nextKey first s with
    | .inr rest => .ok ((found, []), rest)
    | .inl s =>
      let (key, s) ← readText s
      if key = tag then
        if found.isSome then .error (.duplicateField tag)
        else
          let s ← passColon s
          let (name, s) ← readString .variant s
          let x ← names.value name
          readTaggedMembers tag names bound false (some x) s
      else
        let s ← passColon s
        let (x, s) ← readValue (maxDepth - 1) s
        let ((found, members), s) ← readTaggedMembers tag names bound false found s
        .ok ((found, (key, x) :: members), s)

/-- Reads a record whose member `tag` names its type, or a list with that name in front. -/
def readTagged {α : Type} (name tag : String) (names : Names α) : Reader (α × Body) := fun s =>
  match dropBlank s with
  | [] => .error (.ended .value)
  | c :: s =>
    if c = '[' then do
      match ← nextItem true s with
      | none => .error (.missingField tag)
      | some s =>
        let (variant, s) ← readString .variant s
        let x ← names.value variant
        let (items, s) ← readItems (readValue (maxDepth - 1)) (s.length + 1) false s
        .ok ((x, .listed items), s)
    else if c = '\x7b' then do
      let ((found, members), s) ← readTaggedMembers tag names (s.length + 1) true none s
      match found with
      | none => .error (.missingField tag)
      | some x => .ok ((x, .keyed members), s)
    else .error (mismatch (.tagged name) c s)

end PathKeeper.Json
