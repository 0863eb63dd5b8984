import PathKeeper.Text.Utf8

/-!
# Lines of bytes

Input comes in chunks that need not end where a line ends. A line ends with a line feed; what
follows the last one is kept until more comes.
-/

namespace PathKeeper.Source

set_option autoImplicit false

def lineFeed : UInt8 := 10

/-- The whole lines at the front of some bytes, line feeds included, and the rest. -/
def cutLines : List UInt8 → List (List UInt8) × List UInt8
  | [] => ([], [])
  | b :: s =>
    match cutLines s with
    | ([], rest) => if b = lineFeed then ([[b]], rest) else ([], b :: rest)
    | (line :: lines, rest) =>
      if b = lineFeed then ([b] :: line :: lines, rest) else ((b :: line) :: lines, rest)

/-- The rest holds no whole line. -/
theorem lineFeed_not_mem_rest (s : List UInt8) : lineFeed ∉ (cutLines s).2 := by
  induction s with
  | nil => simp [cutLines]
  | cons b s ih =>
    unfold cutLines
    split
    · next rest h =>
      rw [h] at ih
      split
      · exact ih
      · next hb => exact fun hmem => (List.mem_cons.mp hmem).elim (fun he => hb he.symm) ih
    · next line lines rest h =>
      rw [h] at ih
      split <;> exact ih

/-- Takes in a chunk behind an unfinished line. -/
def feedLines (unfinished chunk : List UInt8) : List (List UInt8) × List UInt8 :=
  cutLines (unfinished ++ chunk)

/-- Removes the line feed at the end of a line, and one carriage return before it. -/
def stripEnd (line : List Char) : List Char :=
  match line.reverse with
  | '\n' :: '\r' :: s => s.reverse
  | '\n' :: s => s.reverse
  | _ => line

def lineText (line : List UInt8) : Except Text.Utf8.Fault (List Char) :=
  match Text.Utf8.decode line with
  | .ok text => .ok (stripEnd text)
  | .error fault => .error fault

end PathKeeper.Source
