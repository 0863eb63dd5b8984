import PathKeeper.Text.Ranges
import PathKeeper.Text.HiddenTable

/-!
# Quoted texts

How a text is shown inside a message: in quotes, with escapes for quotes, backslashes and
characters that would not be seen.
-/

namespace PathKeeper.Text

def isHidden (c : Char) : Bool := inRanges hiddenFlips c.toNat

/-- The hexadecimal digits of a number, without leading zeros. -/
def hexDigits (n : Nat) : List Char := Nat.toDigits 16 n

/-- One character inside quotes. -/
def showChar (c : Char) : List Char :=
  match c with
  | '"' => ['\\', '"']
  | '\\' => ['\\', '\\']
  | '\n' => ['\\', 'n']
  | '\r' => ['\\', 'r']
  | '\t' => ['\\', 't']
  | c =>
    if c.toNat = 0 then ['\\', '0']
    else if isHidden c then ['\\', 'u', '\x7b'] ++ hexDigits c.toNat ++ ['\x7d']
    else [c]

def quoted (s : String) : String :=
  String.ofList ('"' :: (s.toList.flatMap showChar ++ ['"']))

end PathKeeper.Text
