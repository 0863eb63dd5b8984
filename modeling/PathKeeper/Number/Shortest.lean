/-!
# Shortest decimal of a double

The fewest digits that read back as the same double, and of those the nearest to it. All
arithmetic is on natural numbers, on the double taken apart as `m * 2 ^ q`.
-/

namespace PathKeeper.Number

set_option autoImplicit false

def twoTo (n : Nat) : Nat := Nat.pow 2 n

def tenTo (n : Nat) : Nat := Nat.pow 10 n

/-- A positive finite double `mantissa * 2 ^ exponent`. It is `narrow` if the double below it is
only half as far away as the one above. -/
structure Double where
  mantissa : Nat
  exponent : Int
  narrow : Bool

namespace Double

/-- Takes the magnitude of a bit pattern apart. -/
def ofBits (bits : UInt64) : Double :=
  let fraction : Nat := bits.toNat % twoTo 52
  let biased : Nat := bits.toNat / twoTo 52 % twoTo 11
  if biased = 0 then ⟨fraction, -1074, false⟩
  else ⟨twoTo 52 + fraction, (biased : Int) - 1075, fraction == 0 && biased != 1⟩

/-- Compares `quarters / 4 * 2 ^ exponent` with `digits * 10 ^ scale`. -/
def compareQuarters (quarters : Nat) (exponent : Int) (digits : Nat) (scale : Int) : Ordering :=
  compare (quarters * twoTo exponent.toNat * tenTo (-scale).toNat)
    (4 * digits * tenTo scale.toNat * twoTo (-exponent).toNat)

/-- Whether `digits * 10 ^ scale` reads back as this double: it lies between the midpoints to
the neighbours, which themselves go to the even mantissa. -/
def readsBack (x : Double) (digits : Nat) (scale : Int) : Bool :=
  let lower := compareQuarters (4 * x.mantissa - if x.narrow then 1 else 2) x.exponent digits scale
  let upper := compareQuarters (4 * x.mantissa + 2) x.exponent digits scale
  let even := x.mantissa % 2 == 0
  (lower == .lt || (even && lower == .eq)) && (upper == .gt || (even && upper == .eq))

def lengthOf (n : Nat) : Nat := (Nat.toDigits 10 n).length

/-- The greatest `e` with `10 ^ e` at most the double. -/
def magnitude (x : Double) : Int :=
  let scaled := x.mantissa * twoTo x.exponent.toNat * tenTo 400 / twoTo (-x.exponent).toNat
  (lengthOf scaled : Int) - 401

/-- The greatest multiple of `10 ^ scale` at most the double, as a count. -/
def floorAt (x : Double) (scale : Int) : Nat :=
  x.mantissa * twoTo x.exponent.toNat * tenTo (-scale).toNat /
    (twoTo (-x.exponent).toNat * tenTo scale.toNat)

/-- Whether the double is nearer to `digits` than to `digits + 1`, an exact half going to the
even one. -/
def nearerBelow (x : Double) (digits : Nat) (scale : Int) : Bool :=
  match compareQuarters (8 * x.mantissa) x.exponent (2 * digits + 1) scale with
  | .lt => true
  | .eq => digits % 2 == 0
  | .gt => false

/-- The best decimal on one grid, if a point of it reads back. -/
def onGrid (x : Double) (scale : Int) : Option (Nat × Int) :=
  let below := x.floorAt scale
  match x.readsBack below scale, x.readsBack (below + 1) scale with
  | true, true => some (if x.nearerBelow below scale then below else below + 1, scale)
  | true, false => some (below, scale)
  | false, true => some (below + 1, scale)
  | false, false => none

/-- The shortest decimal `digits * 10 ^ scale`; seventeen digits always suffice. -/
def shortest (x : Double) : Nat × Int :=
  let grids := (List.range 17).map fun (n : Nat) => x.magnitude - (n : Int)
  (grids.findSome? x.onGrid).getD (x.floorAt (x.magnitude - 16), x.magnitude - 16)

end Double

/-- The digits of a number without the zeros at its end, and how many those were. -/
def stripZeros (digits : List Char) : List Char × Nat :=
  let kept := (digits.reverse.dropWhile (· == '0')).reverse
  (kept, digits.length - kept.length)

/-- At least two digits of an exponent, after its sign. -/
def exponentText (e : Int) : List Char :=
  let digits := Nat.toDigits 10 e.natAbs
  'e' :: (if e < 0 then '-' else '+') :: (if digits.length < 2 then '0' :: digits else digits)

/-- Writes `digits * 10 ^ scale`: positional between a hundred-thousandth and ten quadrillions,
else with an exponent; positional text always has a point. -/
def layout (digits : List Char) (scale : Int) : List Char :=
  let point : Int := digits.length + scale
  if 0 < point ∧ point ≤ 16 then
    if 0 ≤ scale then digits ++ List.replicate scale.toNat '0' ++ ['.', '0']
    else digits.take point.toNat ++ '.' :: digits.drop point.toNat
  else if -5 < point ∧ point ≤ 0 then
    ['0', '.'] ++ List.replicate (-point).toNat '0' ++ digits
  else
    match digits with
    | [] => []
    | [d] => d :: exponentText (point - 1)
    | d :: ds => d :: '.' :: ds ++ exponentText (point - 1)

def shortestText (f : Float) : String :=
  let bits := f.toBits
  let sign := if bits.toNat / twoTo 63 = 1 then ['-'] else []
  if bits.toNat % twoTo 63 = 0 then String.ofList (sign ++ ['0', '.', '0'])
  else
    let (digits, scale) := (Double.ofBits bits).shortest
    let (kept, zeros) := stripZeros (Nat.toDigits 10 digits)
    String.ofList (sign ++ layout kept (scale + zeros))

end PathKeeper.Number
