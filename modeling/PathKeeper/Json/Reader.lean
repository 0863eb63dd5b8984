import PathKeeper.Json.Number
import PathKeeper.Json.Skip

/-!
# Reading expected types

Readers for strings, lists, names and records. Each looks at the next character first: if it begins
another kind of value, that value is named in the fault.
-/

namespace PathKeeper.Json

set_option autoImplicit false

def readLetters : List Char → List Char → Except Fault (List Char)
  | [], s => .ok s
  | _ :: _, [] => .error (.ended .value)
  | d :: due, c :: s => if c = d then readLetters due s else .error .expectedIdent

/-- The fault of a word that is whole but of the wrong type. -/
def wordFault (due : String) (s : List Char) (found : Found) (expected : Expected) : Fault :=
  match readLetters due.toList s with
  | .ok _ => .wrongType found expected
  | .error f => f

def numberFault (positive : Bool) (s : List Char) (expected : Expected) : Fault :=
  match readNumber positive s with
  | .ok (n, _) => .wrongType n.found expected
  | .error f => f

/-- The fault of a value that begins with `c` and is not of the expected type. -/
def mismatch (expected : Expected) (c : Char) (s : List Char) : Fault :=
  if c = 'n' then wordFault "ull" s .null expected
  else if c = 't' then wordFault "rue" s (.boolean true) expected
  else if c = 'f' then wordFault "alse" s (.boolean false) expected
  else if c = '-' then numberFault false s expected
  else if isDigit c then numberFault true (c :: s) expected
  else if c = '"' then
    match readText s with
    | .ok (text, _) => .wrongType (.string text) expected
    | .error f => f
  else if c = '[' then .wrongType .sequence expected
  else if c = '\x7b' then .wrongType .map expected
  else .expectedValue

def readString (expected : Expected) : Reader String := fun s =>
  match dropBlank s with
  | [] => .error (.ended .value)
  | c :: s => if c = '"' then readText s else .error (mismatch expected c s)

/-- Reads an unsigned 64-bit integer. -/
def readUnsigned : Reader Nat := fun s =>
  match dropBlank s with
  | [] => .error (.ended .value)
  | c :: s =>
    let number :=
      if c = '-' then readNumber false s
      else if isDigit c then readNumber true (c :: s)
      else .error (mismatch .unsigned c s)
    match number with
    | .ok (.natural n, rest) => .ok (n, rest)
    | .ok (.negative n, _) => .error (.wrongValue (.integer n) .unsigned)
    | .ok (.float text, _) => .error (.wrongType (.float text) .unsigned)
    | .error f => .error f

/-- Reads the null that stands for no value. -/
def readUnit : Reader Unit := fun s =>
  match dropBlank s with
  | [] => .error (.ended .value)
  | c :: s =>
    if c = 'n' then
      match readLetters ['u', 'l', 'l'] s with
      | .ok rest => .ok ((), rest)
      | .error f => .error f
    else .error (mismatch .unit c s)

def passColon (s : List Char) : Except Fault (List Char) :=
  match dropBlank s with
  | [] => .error (.ended .object)
  | c :: s => if c = ':' then .ok s else .error .expectedColon

/-- Moves to the next item of a list; `none` if the list closes here. -/
def nextItem (first : Bool) (s : List Char) : Except Fault (Option (List Char)) :=
  match dropBlank s with
  | [] => .error (.ended .list)
  | c :: s =>
    if c = ']' then .ok none
    else if first then .ok (some (c :: s))
    else if c = ',' then
      match dropBlank s with
      | [] => .error (.ended .value)
      | d :: s => if d = ']' then .error .trailingComma else .ok (some (d :: s))
    else .error .expectedListSeparator

def closeList (s : List Char) : Except Fault (List Char) :=
  match dropBlank s with
  | [] => .error (.ended .list)
  | c :: s =>
    if c = ']' then .ok s
    else if c = ',' ∧ (dropBlank s).head? = some ']' then .error .trailingComma
    else .error .trailingCharacters

/-- Reads at most `bound` items, up to and with the closing bracket. -/
def readItems {α : Type} (item : Reader α) : Nat → Bool → Reader (List α)
  | 0, _, _ => .error (.ended .list)
  | bound + 1, first, s =>
    match nextItem first s with
    | .error f => .error f
    | .ok none => (closeList s).map ([], ·)
    | .ok (some s) =>
      match item s with
      | .error f => .error f
      | .ok (x, s) => (readItems item bound false s).map fun (xs, s) => (x :: xs, s)

/-- Reads a list. It has no more items than there are characters, one more round finds its end. -/
def readList {α : Type} (item : Reader α) : Reader (List α) := fun s =>
  match dropBlank s with
  | [] => .error (.ended .value)
  | c :: s =>
    if c = '[' then readItems item (s.length + 1) true s
    else .error (mismatch .sequence c s)

/-- Moves behind the opening quote of the next key; `none` if the object closes here, and then
what follows it. -/
def nextKey (first : Bool) (s : List Char) : Except Fault (List Char ⊕ List Char) :=
  match dropBlank s with
  | [] => .error (.ended .object)
  | c :: s =>
    if c = '\x7d' then .ok (.inr s)
    else if first then if c = '"' then .ok (.inl s) else .error .keyNotString
    else if c = ',' then
      match dropBlank s with
      | [] => .error (.ended .value)
      | d :: s =>
        if d = '"' then .ok (.inl s)
        else if d = '\x7d' then .error .trailingComma
        else .error .keyNotString
    else .error .expectedObjectSeparator

/-- A field of a record that is collected in `σ`. -/
structure Field (σ : Type) where
  name : String
  required : Bool
  filled : σ → Bool
  /-- Reads the value and stores it. -/
  read : σ → Reader σ

/-- Reads at most `bound` members, up to and with the closing brace. A key decides what happens to
the value: a field is stored, once, and anything else is skipped. -/
def readMembers {σ : Type} (fields : List (Field σ)) : Nat → Bool → σ → Reader σ
  | 0, _, _, _ => .error (.ended .object)
  | bound + 1, first, record, s => do
    match ← nextKey first s with
    | .inr rest => .ok (record, rest)
    | .inl s =>
      let (key, s) ← readText s
      match fields.find? (·.name == key) with
      | none =>
        let s ← passColon s
        let s ← skipValue s
        readMembers fields bound false record s
      | some field =>
        if field.filled record then .error (.duplicateField key)
        else
          let s ← passColon s
          let (record, s) ← field.read record s
          readMembers fields bound false record s

/-- Reads fields by their order in a list, from position `i` on. Where the list ends early, the
fields that need no value are left out. -/
def readPositions {σ : Type} (expected : Expected) :
    List (Field σ) → Nat → σ → Reader σ
  | [], _, record, s => .ok (record, s)
  | field :: fields, i, record, s => do
    match ← nextItem (i == 0) s with
    | none =>
      if field.required then .error (.wrongLength i expected)
      else readPositions expected fields (i + 1) record s
    | some s =>
      let (record, s) ← field.read record s
      readPositions expected fields (i + 1) record s

/-- The first required field without a value. -/
def missing {σ : Type} (fields : List (Field σ)) (record : σ) : Option String :=
  (fields.find? fun field => field.required && !field.filled record).map (·.name)

/-- Reads a record, written as an object or as the list of its fields. -/
def readRecord {σ : Type} (name : String) (fields : List (Field σ)) (empty : σ) :
    Reader σ := fun s =>
  match dropBlank s with
  | [] => .error (.ended .value)
  | c :: s =>
    if c = '[' then do
      let (record, s) ← readPositions (.recordOf name fields.length) fields 0 empty s
      let s ← closeList s
      .ok (record, s)
    else if c = '\x7b' then do
      let (record, s) ← readMembers fields (s.length + 1) true empty s
      match missing fields record with
      | some field => .error (.missingField field)
      | none => .ok (record, s)
    else .error (mismatch (.record name) c s)

/-- A choice between named values. -/
abbrev Names (α : Type) := List (String × α)

def Names.value {α : Type} (names : Names α) (name : String) : Except Fault α :=
  match names.find? (·.1 == name) with
  | some (_, x) => .ok x
  | none => .error (.unknownVariant name (names.map (·.1)))

/-- Reads a name, written as a string or as the only key of an object with a null. -/
def readName {α : Type} (names : Names α) : Reader α := fun s =>
  match dropBlank s with
  | [] => .error (.ended .value)
  | c :: s =>
    if c = '"' then do
      let (name, s) ← readText s
      let x ← names.value name
      .ok (x, s)
    else if c = '\x7b' then do
      let (name, s) ← readString .variant s
      let x ← names.value name
      let s ← passColon s
      let ((), s) ← readUnit s
      match dropBlank s with
      | [] => .error (.ended .object)
      | d :: s => if d = '\x7d' then .ok (x, s) else .error .expectedValue
    else .error .expectedValue

/-- Reads a text that is one value and nothing else. -/
def readWhole {α : Type} (value : Reader α) (s : List Char) : Except Fault α :=
  match value s with
  | .error f => .error f
  | .ok (x, rest) => if (dropBlank rest).isEmpty then .ok x else .error .trailingCharacters

end PathKeeper.Json
