/-!
# UTF-8

Characters to bytes and back. Reading stops at the first byte that cannot continue a well-formed
text and says where that is: either the bytes so far can begin no character, or the input ends
inside one.
-/

namespace PathKeeper.Text.Utf8

set_option autoImplicit false

inductive Fault where
  /-- The `length` bytes from `index` on begin no character. -/
  | invalid (length index : Nat)
  /-- The input ends inside the character that begins at `index`. -/
  | incomplete (index : Nat)
  deriving DecidableEq, Repr

def Fault.message : Fault → String
  | .invalid length index => s!"invalid utf-8 sequence of {length} bytes from index {index}"
  | .incomplete index => s!"incomplete utf-8 byte sequence from index {index}"

def encode (s : List Char) : List UInt8 := s.flatMap String.utf8EncodeChar

/-- Every byte after the first of a character has the form `10xxxxxx`. -/
def isTail (b : UInt8) : Bool := 0x80 ≤ b && b ≤ 0xBF

/-- The second byte of three is narrowed after two of the first bytes: it would spell a shorter
character or a surrogate. -/
def isSecondOfThree (a b : UInt8) : Bool :=
  if a = 0xE0 then 0xA0 ≤ b && b ≤ 0xBF
  else if a = 0xED then 0x80 ≤ b && b ≤ 0x9F
  else isTail b

/-- The second byte of four is narrowed likewise, at both ends of the range. -/
def isSecondOfFour (a b : UInt8) : Bool :=
  if a = 0xF0 then 0x90 ≤ b && b ≤ 0xBF
  else if a = 0xF4 then 0x80 ≤ b && b ≤ 0x8F
  else isTail b

def low (b : UInt8) : Nat := b.toNat % 64

def ofTwo (a b : UInt8) : Char := Char.ofNat (a.toNat % 32 * 64 + low b)

def ofThree (a b c : UInt8) : Char :=
  Char.ofNat (a.toNat % 16 * 4096 + low b * 64 + low c)

def ofFour (a b c d : UInt8) : Char :=
  Char.ofNat (a.toNat % 8 * 262144 + low b * 4096 + low c * 64 + low d)

def andThen (c : Char) : Except Fault (List Char) → Except Fault (List Char)
  | .ok s => .ok (c :: s)
  | .error f => .error f

/-- Reads the bytes that begin at position `i` of the whole. -/
def decodeFrom (i : Nat) : List UInt8 → Except Fault (List Char)
  | [] => .ok []
  | a :: s =>
    if a < 0x80 then andThen (Char.ofNat a.toNat) (decodeFrom (i + 1) s)
    else if 0xC2 ≤ a ∧ a ≤ 0xDF then
      match s with
      | [] => .error (.incomplete i)
      | b :: s =>
        if isTail b then andThen (ofTwo a b) (decodeFrom (i + 2) s) else .error (.invalid 1 i)
    else if 0xE0 ≤ a ∧ a ≤ 0xEF then
      match s with
      | [] => .error (.incomplete i)
      | b :: s =>
        if isSecondOfThree a b then
          match s with
          | [] => .error (.incomplete i)
          | c :: s =>
            if isTail c then andThen (ofThree a b c) (decodeFrom (i + 3) s)
            else .error (.invalid 2 i)
        else .error (.invalid 1 i)
    else if 0xF0 ≤ a ∧ a ≤ 0xF4 then
      match s with
      | [] => .error (.incomplete i)
      | b :: s =>
        if isSecondOfFour a b then
          match s with
          | [] => .error (.incomplete i)
          | c :: s =>
            if isTail c then
              match s with
              | [] => .error (.incomplete i)
              | d :: s =>
                if isTail d then andThen (ofFour a b c d) (decodeFrom (i + 4) s)
                else .error (.invalid 3 i)
            else .error (.invalid 2 i)
        else .error (.invalid 1 i)
    else .error (.invalid 1 i)

def decode (bytes : List UInt8) : Except Fault (List Char) := decodeFrom 0 bytes

@[simp] theorem encode_nil : encode [] = [] := rfl

@[simp] theorem decode_nil : decode [] = .ok [] := rfl

theorem encode_append (s t : List Char) : encode (s ++ t) = encode s ++ encode t := by
  simp [encode]

end PathKeeper.Text.Utf8
