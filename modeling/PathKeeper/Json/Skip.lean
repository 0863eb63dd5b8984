import PathKeeper.Json.Chars

/-!
# Skipping a value

A value that nobody wants is checked for its grammar and dropped. A small machine reads it one
character at a time; the open lists and objects are on a stack, so no depth is too great.
-/

namespace PathKeeper.Json.Skip

set_option autoImplicit false

open Text (hexDigit?)

inductive Frame where
  | list | object
  deriving DecidableEq, Repr

def Frame.scope : Frame → Scope
  | .list => .list
  | .object => .object

def Frame.closer : Frame → Char
  | .list => ']'
  | .object => '\x7d'

/-- What to complain about where a separator is missing. -/
def Frame.separatorFault : Frame → Fault
  | .list => .expectedListSeparator
  | .object => .expectedObjectSeparator

/-- The part of a number that has been read. -/
inductive Digits where
  | minus | zero | whole | point | places | mark | sign | exponent
  deriving DecidableEq, Repr

/-- Where the machine stands. -/
inductive Spot where
  /-- A value is due. -/
  | value
  /-- A list or object has just been opened. -/
  | opened
  /-- A value inside a list or object has ended. -/
  | after
  /-- A key is due. -/
  | key
  /-- A colon is due. -/
  | colon
  /-- The letters `rest` are due. -/
  | ident (rest : List Char)
  | number (digits : Digits)
  /-- Inside a string, a key or a value. -/
  | text (isKey : Bool)
  /-- After a backslash. -/
  | escape (isKey : Bool)
  /-- Inside a hexadecimal escape, with `left` bytes to come; `good` while all were digits. -/
  | hex (isKey : Bool) (left : Nat) (good : Bool)
  deriving DecidableEq, Repr

/-- What one character does. -/
inductive Step where
  | go (spot : Spot) (frames : List Frame)
  /-- The whole value ends with this character. -/
  | done
  /-- The whole value ended before this character. -/
  | doneBefore
  | fail (f : Fault)
  deriving DecidableEq, Repr

def complete (frames : List Frame) : Step :=
  if frames.isEmpty then .done else .go .after frames

def completeText (isKey : Bool) (frames : List Frame) : Step :=
  if isKey then .go .colon frames else complete frames

def atValue (frames : List Frame) (c : Char) : Step :=
  if isBlank c then .go .value frames
  else if c = '[' then .go .opened (.list :: frames)
  else if c = '\x7b' then .go .opened (.object :: frames)
  else if c = '"' then .go (.text false) frames
  else if c = 'n' then .go (.ident ['u', 'l', 'l']) frames
  else if c = 't' then .go (.ident ['r', 'u', 'e']) frames
  else if c = 'f' then .go (.ident ['a', 'l', 's', 'e']) frames
  else if c = '-' then .go (.number .minus) frames
  else if c = '0' then .go (.number .zero) frames
  else if isDigit c then .go (.number .whole) frames
  else .fail .expectedValue

def atKey (frames : List Frame) (c : Char) : Step :=
  if isBlank c then .go .key frames
  else if c = '"' then .go (.text true) frames
  else .fail .keyNotString

def atOpened (frames : List Frame) (c : Char) : Step :=
  match frames with
  | [] => .fail .expectedValue
  | frame :: outer =>
    if isBlank c then .go .opened frames
    else if c = frame.closer then complete outer
    else match frame with
      | .list => atValue frames c
      | .object => atKey frames c

def atAfter (frames : List Frame) (c : Char) : Step :=
  match frames with
  | [] => .doneBefore
  | frame :: outer =>
    if isBlank c then .go .after frames
    else if c = frame.closer then complete outer
    else if c = ',' then
      match frame with
      | .list => .go .value frames
      | .object => .go .key frames
    else .fail frame.separatorFault

def atColon (frames : List Frame) (c : Char) : Step :=
  if isBlank c then .go .colon frames
  else if c = ':' then .go .value frames
  else .fail .expectedColon

def atIdent (rest : List Char) (frames : List Frame) (c : Char) : Step :=
  match rest with
  | [] => .fail .expectedIdent
  | [d] => if c = d then complete frames else .fail .expectedIdent
  | d :: rest => if c = d then .go (.ident rest) frames else .fail .expectedIdent

/-- A number that may end here does so at any other character. -/
def atNumber (digits : Digits) (frames : List Frame) (c : Char) : Step :=
  match digits with
  | .minus =>
    if c = '0' then .go (.number .zero) frames
    else if isDigit c then .go (.number .whole) frames
    else .fail .invalidNumber
  | .zero =>
    if isDigit c then .fail .invalidNumber
    else if c = '.' then .go (.number .point) frames
    else if c = 'e' ∨ c = 'E' then .go (.number .mark) frames
    else atAfter frames c
  | .whole =>
    if isDigit c then .go (.number .whole) frames
    else if c = '.' then .go (.number .point) frames
    else if c = 'e' ∨ c = 'E' then .go (.number .mark) frames
    else atAfter frames c
  | .point => if isDigit c then .go (.number .places) frames else .fail .invalidNumber
  | .places =>
    if isDigit c then .go (.number .places) frames
    else if c = 'e' ∨ c = 'E' then .go (.number .mark) frames
    else atAfter frames c
  | .mark =>
    if c = '+' ∨ c = '-' then .go (.number .sign) frames
    else if isDigit c then .go (.number .exponent) frames
    else .fail .invalidNumber
  | .sign => if isDigit c then .go (.number .exponent) frames else .fail .invalidNumber
  | .exponent => if isDigit c then .go (.number .exponent) frames else atAfter frames c

def atText (isKey : Bool) (frames : List Frame) (c : Char) : Step :=
  if c = '"' then completeText isKey frames
  else if c = '\\' then .go (.escape isKey) frames
  else if c.toNat < 0x20 then .fail .controlCharacter
  else .go (.text isKey) frames

def atEscape (isKey : Bool) (frames : List Frame) (c : Char) : Step :=
  if c = 'u' then .go (.hex isKey 4 true) frames
  else if (unescape? c).isSome then .go (.text isKey) frames
  else .fail .invalidEscape

def atHex (isKey : Bool) (left : Nat) (good : Bool) (frames : List Frame) (c : Char) : Step :=
  let good := good && (hexDigit? c).isSome
  let left := left - c.utf8Size
  if left ≠ 0 then .go (.hex isKey left good) frames
  else if good then .go (.text isKey) frames
  else .fail .invalidEscape

def step (spot : Spot) (frames : List Frame) (c : Char) : Step :=
  match spot with
  | .value => atValue frames c
  | .opened => atOpened frames c
  | .after => atAfter frames c
  | .key => atKey frames c
  | .colon => atColon frames c
  | .ident rest => atIdent rest frames c
  | .number digits => atNumber digits frames c
  | .text isKey => atText isKey frames c
  | .escape isKey => atEscape isKey frames c
  | .hex isKey left good => atHex isKey left good frames c

/-- The scope of the innermost list or object. -/
def innermost : List Frame → Scope
  | [] => .value
  | frame :: _ => frame.scope

def Digits.mayEnd : Digits → Bool
  | .zero | .whole | .places | .exponent => true
  | _ => false

/-- The fault of a text that ends here; `none` if the value is whole. -/
def atEnd (spot : Spot) (frames : List Frame) : Option Fault :=
  match spot with
  | .value => some (.ended .value)
  | .opened => some (.ended (innermost frames))
  | .after => if frames.isEmpty then none else some (.ended (innermost frames))
  | .key => some (.ended .object)
  | .colon => some (.ended .object)
  | .ident _ => some (.ended .value)
  | .number digits =>
    if !digits.mayEnd then some .invalidNumber
    else if frames.isEmpty then none
    else some (.ended (innermost frames))
  | .text _ => some (.ended .string)
  | .escape _ => some (.ended .string)
  | .hex _ _ _ => some (.ended .string)

/-- Runs the machine to the end of the value and gives the text behind it. -/
def run (spot : Spot) (frames : List Frame) : List Char → Except Fault (List Char)
  | [] =>
    match atEnd spot frames with
    | none => .ok []
    | some f => .error f
  | c :: s =>
    match step spot frames c with
    | .go spot frames => run spot frames s
    | .done => .ok s
    | .doneBefore => .ok (c :: s)
    | .fail f => .error f

end PathKeeper.Json.Skip

namespace PathKeeper.Json

/-- Drops the value at the front of a text. -/
def skipValue (s : List Char) : Except Fault (List Char) := Skip.run .value [] s

end PathKeeper.Json
