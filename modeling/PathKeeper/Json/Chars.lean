import PathKeeper.Json.Fault
import PathKeeper.Text.Digit

/-!
# Characters of JSON

Blanks between tokens, hexadecimal escapes, and string literals in both directions: `quote` writes
one, `readText` reads one after its opening quote.
-/

namespace PathKeeper.Json

set_option autoImplicit false

open Text (hexDigit?)

/-- A reader takes a value off the front of a text, or reports the first fault. -/
abbrev Reader (α : Type) := List Char → Except Fault (α × List Char)

/-- The four blanks that may stand between tokens. -/
def isBlank (c : Char) : Bool :=
  c == ' ' || c == '\t' || c == '\n' || c == '\r'

def dropBlank (s : List Char) : List Char := s.dropWhile isBlank

@[simp] theorem dropBlank_nil : dropBlank [] = [] := rfl

theorem dropBlank_cons_of_not {c : Char} {s : List Char} (h : isBlank c = false) :
    dropBlank (c :: s) = c :: s := by
  simp [dropBlank, h]

def isDigit (c : Char) : Bool := '0' ≤ c && c ≤ '9'

def hexQuad? (a b c d : Char) : Option Nat :=
  match hexDigit? a, hexDigit? b, hexDigit? c, hexDigit? d with
  | some p, some q, some r, some s => some (p * 4096 + q * 256 + r * 16 + s)
  | _, _, _, _ => none

def isLeading (n : Nat) : Bool := 0xD800 ≤ n && n ≤ 0xDBFF

def isTrailing (n : Nat) : Bool := 0xDC00 ≤ n && n ≤ 0xDFFF

def ofPair (leading trailing : Nat) : Char :=
  Char.ofNat (0x10000 + (leading - 0xD800) * 1024 + (trailing - 0xDC00))

def byteCount : List Char → Nat
  | [] => 0
  | c :: s => c.utf8Size + byteCount s

/-- Why an escape with fewer than four characters after it is refused: four bytes that are not
digits, or not even those. -/
def cutEscape (s : List Char) : Fault :=
  if 4 ≤ byteCount s then .invalidEscape else .ended .string

/-- The character that a one-letter escape stands for. -/
def unescape? (c : Char) : Option Char :=
  match c with
  | '"' => some '"'
  | '\\' => some '\\'
  | '/' => some '/'
  | 'b' => some '\x08'
  | 'f' => some '\x0c'
  | 'n' => some '\n'
  | 'r' => some '\r'
  | 't' => some '\t'
  | _ => none

def readQuad : Reader Nat
  | a :: b :: c :: d :: s =>
    match hexQuad? a b c d with
    | some n => .ok (n, s)
    | none => .error .invalidEscape
  | s => .error (cutEscape s)

/-- Reads the escape of the trailing surrogate that must follow a leading one. -/
def readTrailing (leading : Nat) : Reader Char
  | [] => .error (.ended .string)
  | ['\\'] => .error (.ended .string)
  | '\\' :: 'u' :: s => do
    let (n, s) ← readQuad s
    if isTrailing n then .ok (ofPair leading n, s) else .error .loneSurrogate
  | _ => .error .hexEscapeEnd

/-- Reads the digits of a hexadecimal escape, two of them for a surrogate pair. -/
def readCodePoint : Reader Char := fun s => do
  let (n, s) ← readQuad s
  if isTrailing n then .error .loneSurrogate
  else if isLeading n then readTrailing n s
  else .ok (Char.ofNat n, s)

/-- Reads an escape after its backslash. -/
def readEscape : Reader Char
  | [] => .error (.ended .string)
  | 'u' :: s => readCodePoint s
  | e :: s =>
    match unescape? e with
    | some c => .ok (c, s)
    | none => .error .invalidEscape

/-- Puts a character in front of the text that is read after it. -/
def withChar (c : Char) :
    Except Fault (List Char × List Char) → Except Fault (List Char × List Char)
  | .ok (text, rest) => .ok (c :: text, rest)
  | .error f => .error f

/-- Reads at most `bound` characters of a string literal, up to its closing quote. -/
def readChars : Nat → Reader (List Char)
  | 0, _ => .error (.ended .string)
  | _ + 1, [] => .error (.ended .string)
  | bound + 1, c :: s =>
    if c = '"' then .ok ([], s)
    else if c = '\\' then
      match readEscape s with
      | .ok (c, s) => withChar c (readChars bound s)
      | .error f => .error f
    else if c.toNat < 0x20 then .error .controlCharacter
    else withChar c (readChars bound s)

/-- Reads a string literal after its opening quote. It has no more characters than are left. -/
def readText : Reader String := fun s =>
  match readChars s.length s with
  | .ok (text, rest) => .ok (String.ofList text, rest)
  | .error f => .error f

def hexChar (n : Nat) : Char := Nat.digitChar (n % 16)

/-- A character as it stands in a string literal: quotes, backslashes and controls are escaped,
with a letter where there is one. -/
def escapeChar (c : Char) : List Char :=
  match c with
  | '"' => ['\\', '"']
  | '\\' => ['\\', '\\']
  | '\x08' => ['\\', 'b']
  | '\x0c' => ['\\', 'f']
  | '\n' => ['\\', 'n']
  | '\r' => ['\\', 'r']
  | '\t' => ['\\', 't']
  | c =>
    if c.toNat < 0x20 then ['\\', 'u', '0', '0', hexChar (c.toNat / 16), hexChar c.toNat]
    else [c]

def quoteChars (s : List Char) : List Char := '"' :: (s.flatMap escapeChar ++ ['"'])

def quote (s : String) : List Char := quoteChars s.toList

end PathKeeper.Json
