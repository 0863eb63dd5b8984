import PathKeeper.Address.Basic
import PathKeeper.Text.Digit
import PathKeeper.Text.Pieces

/-!
# Reading addresses

The strict text forms: no blanks, ports, masks or zones. Version 4 is four decimal octets without
leading zeros. Version 6 is eight groups of up to four hexadecimal digits; a gap `::` stands for
at least one zero group, and the last two groups may be written as a version 4 address.
-/

namespace PathKeeper

set_option autoImplicit false

open Text

/-- An octet: up to three digits, without a leading zero, below 256. -/
def readOctet (s : List Char) : Option UInt8 :=
  if s = [] ∨ 3 < s.length ∨ (s.head? = some '0' ∧ s.length ≠ 1) then none
  else
    match spelled? digit? 10 0 s with
    | some n => if n < 256 then some (UInt8.ofNat n) else none
    | none => none

def V4.read (s : List Char) : Option V4 :=
  match pieces '.' s with
  | [p, q, r, t] =>
    match readOctet p, readOctet q, readOctet r, readOctet t with
    | some a, some b, some c, some d => some ⟨a, b, c, d⟩
    | _, _, _, _ => none
  | _ => none

/-- A group: up to four hexadecimal digits. -/
def readGroup (s : List Char) : Option UInt16 :=
  if s = [] ∨ 4 < s.length then none
  else (spelled? hexDigit? 16 0 s).map UInt16.ofNat

/-- The groups of pieces between colons. If `dotted`, the last piece may be a version 4 address. -/
def readGroups (dotted : Bool) : List (List Char) → Option (List UInt16)
  | [] => some []
  | [piece] =>
    match readGroup piece with
    | some g => some [g]
    | none => if dotted then (V4.read piece).map V4.groups else none
  | piece :: rest =>
    match readGroup piece, readGroups dotted rest with
    | some g, some gs => some (g :: gs)
    | _, _ => none

/-- The groups on one side of a gap; there may be none. -/
def readSide (dotted : Bool) (s : List Char) : Option (List UInt16) :=
  if s = [] then some [] else readGroups dotted (pieces ':' s)

/-- Cuts a text at its first gap. -/
def cutAtGap : List Char → Option (List Char × List Char)
  | [] => none
  | c :: s =>
    if c = ':' ∧ s.head? = some ':' then some ([], s.tail)
    else (cutAtGap s).map fun (front, back) => (c :: front, back)

def V6.read (s : List Char) : Option V6 :=
  match cutAtGap s with
  | none => (readSide true s).bind V6.ofList?
  | some (front, back) =>
    match readSide false front, readSide true back with
    | some gs, some hs =>
      if gs.length + hs.length < 8 then
        V6.ofList? (gs ++ List.replicate (8 - (gs.length + hs.length)) 0 ++ hs)
      else none
    | _, _ => none

def Address.read (s : List Char) : Option Address :=
  match V4.read s with
  | some x => some (.v4 x)
  | none => (V6.read s).map .v6

end PathKeeper
