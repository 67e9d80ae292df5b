/-!
# Shortest decimals — the fewest digits that identify a double

A finite double stands for all reals that round to it: an interval around `mantissa * 2 ^ exponent` whose
ends belong to it exactly when the mantissa is even. `Magnitude.shortest` looks for a decimal in that
interval on ever finer grids, one digit, two digits, and so on. On each grid only the two neighbours of the
exact value can be hits; of two hits the nearer is taken, and on a tie the one with the even last digit. All
arithmetic is on naturals.
-/

namespace GraphQLCache.Decimal

/-- The decimal `digits * 10 ^ exponent`. -/
structure Scaled where
  digits : Nat
  exponent : Int
deriving DecidableEq, Repr

/-- The finite double `mantissa * 2 ^ exponent`, without its sign. Where `narrowBelow`, the gap to the
    double below is half as wide as the gap to the double above. -/
structure Magnitude where
  mantissa : Nat
  exponent : Int
  narrowBelow : Bool
deriving DecidableEq, Repr

/-- A double taken apart. -/
inductive Shape where
  | nan
  | infinite (negative : Bool)
  | finite (negative : Bool) (magnitude : Magnitude)
deriving DecidableEq, Repr

/-- The parts of a double: sign, eleven bits of exponent, fifty-two bits of fraction. -/
def shapeOf (x : Float) : Shape :=
  let bits : Nat := x.toBits.toNat
  let negative := bits / Nat.pow 2 63 == 1
  let biased : Nat := bits / Nat.pow 2 52 % Nat.pow 2 11
  let fraction : Nat := bits % Nat.pow 2 52
  if biased == Nat.pow 2 11 - 1 then
    if fraction == 0 then .infinite negative else .nan
  else if biased == 0 then .finite negative ⟨fraction, -1074, false⟩
  else .finite negative ⟨Nat.pow 2 52 + fraction, (biased : Int) - 1075, fraction == 0 && biased > 1⟩

/-- `a * 10 ^ i` compared with `b * 2 ^ j`. -/
def compareScaled (a : Nat) (i : Int) (b : Nat) (j : Int) : Ordering :=
  compare (a * Nat.pow 10 i.toNat * Nat.pow 2 (-j).toNat) (b * Nat.pow 2 j.toNat * Nat.pow 10 (-i).toNat)

/-- Whether a decimal rounds to the double. -/
def Magnitude.readsBack (x : Magnitude) (d : Scaled) : Bool :=
  let low := 4 * x.mantissa - (if x.narrowBelow then 1 else 2)
  let high := 4 * x.mantissa + 2
  let closed := x.mantissa % 2 == 0
  let atLow := compareScaled d.digits d.exponent low (x.exponent - 2)
  let atHigh := compareScaled d.digits d.exponent high (x.exponent - 2)
  (atLow == .gt || (closed && atLow == .eq)) && (atHigh == .lt || (closed && atHigh == .eq))

/-- The number of decimal digits of `n`. -/
def digitCount (n : Nat) : Nat := (Nat.toDigits 10 n).length

/-- The integer part of `x * 10 ^ places`. -/
def Magnitude.scaledFloor (x : Magnitude) (places : Int) : Nat :=
  x.mantissa * Nat.pow 2 x.exponent.toNat * Nat.pow 10 places.toNat
    / (Nat.pow 2 (-x.exponent).toNat * Nat.pow 10 (-places).toNat)

/-- The least `k` with `x < 10 ^ k`, for a double that is not zero: no such double is below `10 ^ (-400)`. -/
def Magnitude.scale (x : Magnitude) : Int := (digitCount (x.scaledFloor 400) : Int) - 400

/-- The better of the two neighbours of `x` on the grid of `10 ^ (-places)`, if one rounds to `x`. -/
def Magnitude.onGrid? (x : Magnitude) (places : Int) : Option Scaled :=
  let below := x.scaledFloor places
  let down : Scaled := ⟨below, -places⟩
  let up : Scaled := ⟨below + 1, -places⟩
  match x.readsBack down, x.readsBack up with
  | true, false => some down
  | false, true => some up
  | false, false => none
  | true, true =>
    -- Twice the value against the sum of the two neighbours.
    match compareScaled (2 * below + 1) (-places) (2 * x.mantissa) x.exponent with
    | .gt => some down
    | .lt => some up
    | .eq => if below % 2 == 0 then some down else some up

/-- Trailing zeros of the digits moved into the exponent, at most `fuel` of them. -/
def Scaled.strip : (fuel : Nat) → Scaled → Scaled
  | 0, d => d
  | fuel + 1, d =>
    if d.digits != 0 && d.digits % 10 == 0 then Scaled.strip fuel ⟨d.digits / 10, d.exponent + 1⟩ else d

/-- The exact decimal value. -/
def Magnitude.exact (x : Magnitude) : Scaled :=
  ⟨x.mantissa * Nat.pow 2 x.exponent.toNat * Nat.pow 5 (-x.exponent).toNat, -((-x.exponent).toNat : Int)⟩

/-- The decimal of the fewest digits that rounds to `x`, the nearest of those; zero has the digit zero. -/
def Magnitude.shortest (x : Magnitude) : Scaled :=
  if x.mantissa == 0 then ⟨0, 0⟩
  else
    let found := (List.range 17).findSome? fun (n : Nat) => x.onGrid? (n + 1 - x.scale)
    let d := found.getD x.exact
    d.strip (digitCount d.digits)

/-- The integer that `x` equals, if it is one. -/
def Magnitude.integer? (x : Magnitude) : Option Nat :=
  let divisor := Nat.pow 2 (-x.exponent).toNat
  if x.mantissa % divisor == 0 then some (x.mantissa / divisor * Nat.pow 2 x.exponent.toNat) else none

end GraphQLCache.Decimal
