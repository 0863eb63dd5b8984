import PathKeeper.Text.Ranges
import PathKeeper.Text.LetterTable

/-!
# Lower case

Full lower-casing of a text. Two letters need more than a table: the dotted capital I becomes two
characters, and a capital sigma at the end of a word takes its final form.
-/

namespace PathKeeper.Text

/-- The small letter of the run that holds `n`, if one does. -/
def lowerInRun (n : Nat) : Nat × Nat × Nat × Int → Option Nat
  | (first, count, stride, shift) =>
    if first ≤ n && n < first + count * stride && (n - first) % stride == 0 then
      some (Int.toNat (n + shift))
    else none

/-- The small letter of a character with a single one, otherwise the character itself. -/
def lowerChar (c : Char) : Char :=
  if c.toNat < 128 then c.toLower
  else ((lowerRuns.findSome? (lowerInRun c.toNat)).map Char.ofNat).getD c

def isCased (c : Char) : Bool := inRanges casedFlips c.toNat

def isIgnorable (c : Char) : Bool := inRanges ignorableFlips c.toNat

/-- Whether the first character that is not case-ignorable has case. -/
def meetsCased (s : List Char) : Bool :=
  ((s.dropWhile isIgnorable).head?.map isCased).getD false

def capitalSigma : Char := 'Σ'

/-- Lowers `s`, where `before` is the text in front of it, last character first. -/
def lowerFrom (before : List Char) : List Char → List Char
  | [] => []
  | c :: rest =>
    let small :=
      if c = capitalSigma then
        if meetsCased before && !meetsCased rest then ['ς'] else ['σ']
      else if c = 'İ' then ['i', Char.ofNat 0x307]
      else [lowerChar c]
    small ++ lowerFrom (c :: before) rest

def lower (s : String) : String :=
  String.ofList (lowerFrom [] s.toList)

@[simp] theorem lowerFrom_nil (before : List Char) : lowerFrom before [] = [] := rfl

end PathKeeper.Text
