import PathKeeper.Address.Basic
import PathKeeper.Text.Pieces

/-!
# Writing addresses

The canonical text: lower case, no leading zeros, and in version 6 a gap for the longest run of at
least two zero groups, the first of equals. Addresses that map version 4 keep its dotted form.
-/

namespace PathKeeper

set_option autoImplicit false

open Text

def V4.print (x : V4) : List Char :=
  joined ['.'] ([x.a, x.b, x.c, x.d].map fun octet => Nat.toDigits 10 octet.toNat)

def printGroup (g : UInt16) : List Char := Nat.toDigits 16 g.toNat

def printGroups (gs : List UInt16) : List Char := joined [':'] (gs.map printGroup)

/-- The runs inside eight groups as start and length, longer ones first and then earlier ones. -/
def runs : List (Nat × Nat) :=
  (List.range 7).flatMap fun k => (List.range (k + 1)).map fun start => (start, 8 - k)

/-- Whether the groups of a run are all zero. -/
def isZeroRun (gs : List UInt16) : Nat × Nat → Bool
  | (start, length) => ((gs.drop start).take length).all (· == 0)

/-- The longest run of at least two zero groups, the first of equals. -/
def zeroRun (gs : List UInt16) : Option (Nat × Nat) := runs.find? (isZeroRun gs)

namespace V6

/-- The version 4 address that is mapped into the last two groups. -/
def mapped? (x : V6) : Option V4 :=
  match x.groups with
  | [0, 0, 0, 0, 0, 0xFFFF, high, low] => some (V4.ofGroups high low)
  | _ => none

def print (x : V6) : List Char :=
  match x.mapped? with
  | some y => [':', ':', 'f', 'f', 'f', 'f', ':'] ++ y.print
  | none =>
    match zeroRun x.groups with
    | some (start, length) =>
      printGroups (x.groups.take start) ++ [':', ':'] ++
        printGroups (x.groups.drop (start + length))
    | none => printGroups x.groups

end V6

namespace Address

def print : Address → List Char
  | .v4 x => x.print
  | .v6 x => x.print

def text (x : Address) : String := String.ofList x.print

end Address

end PathKeeper
