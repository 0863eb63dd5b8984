import PathKeeper.Json.Chars
import PathKeeper.Number.Shortest

/-!
# Numbers of JSON

A number without point and exponent is an integer if 64 bits hold it. Every other number is a
double: its leading digits, as many as 64 bits hold, scaled by a power of ten.
-/

namespace PathKeeper.Json

set_option autoImplicit false

inductive Number where
  | natural (n : Nat)
  /-- A negative integer. -/
  | negative (n : Int)
  /-- Any other number, by its shortest decimal text. -/
  | float (text : String)
  deriving DecidableEq, Repr

def Number.found : Number → Found
  | .natural n => .integer n
  | .negative n => .integer n
  | .float text => .float text

/-- One more than the largest significand: it has 64 bits. -/
def significandLimit : Nat := 18446744073709551616

/-- The largest exponent that is counted: it has 31 bits. -/
def exponentLimit : Nat := 2147483647

/-- The double `10 ^ n`, for `n` up to 308. -/
def powerOfTen (n : Nat) : Float := Float.ofScientific 1 false n

/-- Divides by `10 ^ n`, in steps of the greatest power of ten that there is. -/
def scaleDown (f : Float) (n : Nat) : Float :=
  if n ≤ 308 then f / powerOfTen n
  else if f == 0.0 then f
  else scaleDown (f / powerOfTen 308) (n - 308)
termination_by n

/-- The double `significand * 10 ^ exponent`, if there is one. -/
def double (positive : Bool) (significand : Nat) (exponent : Int) : Except Fault Number :=
  let f := significand.toUInt64.toFloat
  let signed (f : Float) : Except Fault Number :=
    .ok (.float (PathKeeper.Number.shortestText (if positive then f else -f)))
  if exponent < 0 then signed (scaleDown f exponent.natAbs)
  else if exponent ≤ 308 then
    let product := f * powerOfTen exponent.natAbs
    if product.isInf then .error .numberOutOfRange else signed product
  else if significand = 0 then signed f
  else .error .numberOutOfRange

/-- The size of the least 64-bit integer. -/
def leastMagnitude : Nat := 9223372036854775808

/-- The integer of the given sign, or a double if no 64-bit integer is meant. -/
def integer (positive : Bool) (n : Nat) : Except Fault Number :=
  if positive then .ok (.natural n)
  else if 1 ≤ n ∧ n ≤ leastMagnitude then .ok (.negative (-n))
  else double false n 0

def digitValue (c : Char) : Nat := c.toNat - 48

/-- Takes digits into the significand as long as they fit; the digits behind are counted. -/
def takeDigits (significand : Nat) : List Char → Nat × Nat × List Char
  | [] => (significand, 0, [])
  | c :: s =>
    if isDigit c then
      if significand * 10 + digitValue c < significandLimit then
        takeDigits (significand * 10 + digitValue c) s
      else (significand, ((c :: s).takeWhile isDigit).length, (c :: s).dropWhile isDigit)
    else (significand, 0, c :: s)

/-- Takes decimal places into the significand as long as they fit; those are counted and the
others dropped. -/
def takePlaces (significand count : Nat) : List Char → Nat × Nat × List Char
  | [] => (significand, count, [])
  | c :: s =>
    if isDigit c then
      if significand * 10 + digitValue c < significandLimit then
        takePlaces (significand * 10 + digitValue c) (count + 1) s
      else (significand, count, (c :: s).dropWhile isDigit)
    else (significand, count, c :: s)

/-- Takes the digits of an exponent; `none` if they exceed the limit. -/
def takeExponent (n : Nat) : List Char → Option Nat × List Char
  | [] => (some n, [])
  | c :: s =>
    if isDigit c then
      if n * 10 + digitValue c ≤ exponentLimit then takeExponent (n * 10 + digitValue c) s
      else (none, s.dropWhile isDigit)
    else (some n, c :: s)

/-- A number takes the form that its text has after the digits read so far. -/
abbrev NumberTail := List Char → Except Fault (Number × List Char)

def withRest (rest : List Char) : Except Fault Number → Except Fault (Number × List Char)
  | .ok n => .ok (n, rest)
  | .error f => .error f

def readExponentDigits (positive : Bool) (significand : Nat) (start : Int) (up : Bool) :
    NumberTail
  | [] => .error (.ended .value)
  | c :: s =>
    if isDigit c then
      match takeExponent (digitValue c) s with
      | (some e, rest) =>
        withRest rest (double positive significand (if up then start + e else start - e))
      | (none, rest) =>
        if significand ≠ 0 ∧ up then .error .numberOutOfRange
        else withRest rest (double positive 0 0)
    else .error .invalidNumber

/-- Reads an exponent after its mark. -/
def readExponent (positive : Bool) (significand : Nat) (start : Int) : NumberTail
  | '+' :: s => readExponentDigits positive significand start true s
  | '-' :: s => readExponentDigits positive significand start false s
  | s => readExponentDigits positive significand start true s

def readPlaces (positive : Bool) (significand : Nat) (start : Int) : NumberTail
  | [] => .error (.ended .value)
  | c :: s =>
    if isDigit c then
      let (significand, count, rest) := takePlaces significand 0 (c :: s)
      match rest with
      | 'e' :: s => readExponent positive significand (start - count) s
      | 'E' :: s => readExponent positive significand (start - count) s
      | s => withRest s (double positive significand (start - count))
    else .error .invalidNumber

/-- Reads what follows the digits before the point, of which `skipped` did not fit. -/
def readNumberTail (positive : Bool) (significand skipped : Nat) : NumberTail
  | '.' :: s => readPlaces positive significand skipped s
  | 'e' :: s => readExponent positive significand skipped s
  | 'E' :: s => readExponent positive significand skipped s
  | s =>
    withRest s (if skipped = 0 then integer positive significand
      else double positive significand skipped)

def readNumber (positive : Bool) : NumberTail
  | [] => .error (.ended .value)
  | c :: s =>
    if c = '0' then
      if (s.head?.map isDigit).getD false then .error .invalidNumber
      else readNumberTail positive 0 0 s
    else if isDigit c then
      let (significand, skipped, rest) := takeDigits 0 (c :: s)
      readNumberTail positive significand skipped rest
    else .error .invalidNumber

def natural (n : Nat) : List Char := Nat.toDigits 10 n

end PathKeeper.Json
