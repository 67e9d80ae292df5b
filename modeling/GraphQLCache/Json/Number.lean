import GraphQLCache.Decimal.Shortest

/-!
# Number text — how doubles are written

A double is written with the fewest digits that identify it. From `1e-4` up to but not including `1e16` it
is written positionally and always with a point; beyond, with a mantissa and an exponent that has a sign and
at least two digits.
-/

namespace GraphQLCache

open Decimal

/-- `digits` with zeros in front, at least `width` characters. -/
def padZeros (width : Nat) (digits : List Char) : List Char :=
  List.replicate (width - digits.length) '0' ++ digits

/-- The decimal digits of `n`. -/
def natDigits (n : Nat) : List Char := Nat.toDigits 10 n

/-- The decimal digits of an integer, behind a minus sign where it is negative. -/
def intDigits (n : Int) : List Char :=
  if n < 0 then '-' :: natDigits n.natAbs else natDigits n.natAbs

/-- The layout of a decimal without its sign. -/
def layoutDecimal (d : Decimal.Scaled) : List Char :=
  let ds := natDigits d.digits
  -- The exponent of the leading digit.
  let lead : Int := if d.digits = 0 then 0 else (ds.length : Int) - 1 + d.exponent
  if -4 ≤ lead ∧ lead < 16 then
    if lead < 0 then '0' :: '.' :: List.replicate ((-lead).toNat - 1) '0' ++ ds
    else
      let whole := lead.toNat + 1
      if ds.length ≤ whole then ds ++ List.replicate (whole - ds.length) '0' ++ ['.', '0']
      else ds.take whole ++ '.' :: ds.drop whole
  else
    let mantissa :=
      match ds with
      | first :: second :: rest => first :: '.' :: second :: rest
      | short => short
    mantissa ++ 'e' :: (if lead < 0 then '-' else '+') :: padZeros 2 (natDigits lead.natAbs)

/-- The texts of the doubles that have no digits. -/
structure SpecialNames where
  nan : String
  infinite : String

/-- A double in full, with `names` for those that have no digits. -/
def writeFloat (names : SpecialNames) (x : Float) : String :=
  match shapeOf x with
  | .nan => names.nan
  | .infinite negative => if negative then "-" ++ names.infinite else names.infinite
  | .finite negative magnitude =>
    String.ofList ((if negative then ['-'] else []) ++ layoutDecimal magnitude.shortest)

/-- The double nearest to `digits * 10 ^ exponent`, with a sign; infinity where it is out of range. -/
def readFloat (negative : Bool) (digits : Nat) (exponent : Int) : Float :=
  let magnitude : Float :=
    if digits = 0 then 0.0
    else if (digitCount digits : Int) + exponent > 310 then 1.0 / 0.0
    else if (digitCount digits : Int) + exponent < -330 then 0.0
    else Float.ofScientific digits (exponent < 0) exponent.natAbs
  if negative then -magnitude else magnitude

end GraphQLCache
