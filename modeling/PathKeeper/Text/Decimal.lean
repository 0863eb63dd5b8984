import PathKeeper.Text.Digit

/-!
# Unsigned decimals

Reading a 64-bit unsigned number: an optional plus sign and decimal digits. The digits are read
from the left and the first obstacle decides the fault.
-/

namespace PathKeeper.Text.Decimal

set_option autoImplicit false

inductive Fault where
  | empty
  | badDigit
  | tooLarge
  deriving DecidableEq, Repr

def Fault.message : Fault → String
  | .empty => "cannot parse integer from empty string"
  | .badDigit => "invalid digit found in string"
  | .tooLarge => "number too large to fit in target type"

/-- One more than the largest number that is read: it has 64 bits. -/
def limit : Nat := 18446744073709551616

/-- Continues the number `n` with the digits that follow. -/
def continued (n : Nat) : List Char → Except Fault Nat
  | [] => .ok n
  | c :: rest =>
    match digit? c with
    | none => .error .badDigit
    | some d => if n * 10 + d < limit then continued (n * 10 + d) rest else .error .tooLarge

def read : List Char → Except Fault Nat
  | [] => .error .empty
  | ['+'] => .error .badDigit
  | '+' :: rest => continued 0 rest
  | digits => continued 0 digits

@[simp] theorem continued_nil (n : Nat) : continued n [] = .ok n := rfl

@[simp] theorem read_nil : read [] = .error .empty := rfl

end PathKeeper.Text.Decimal
