import IndexWire.Binary64.Basic

/-!
# Rounded decimals

Double-precision numbers with as many decimals as a caller asks for, correctly rounded, a tie to the
even digit. `fixed` counts places after the point, `scientific` counts them after the first digit
and adds an exponent, and `general` counts significant digits and picks one of the two layouts.
-/

namespace IndexWire

namespace Binary64

/-- Digits with a point before the last `places`; at the end a point stands only if it is kept. -/
def withPoint (digits : Text) (places : Nat) (keepsPoint : Bool) : Text :=
  let point := CodePoint.ofChar '.'
  let whole := digits.length - places
  if places = 0 then digits ++ (if keepsPoint then [point] else [])
  else digits.take whole ++ point :: digits.drop whole

/-- Digits with a point, without the zeros at the end, and without the point if nothing follows. -/
def withoutZeros (digits : Text) : Text :=
  if digits.any (·.is '.') then
    let kept := digits.reverse.dropWhile (·.is '0')
    (if kept.head?.any (·.is '.') then kept.drop 1 else kept).reverse
  else digits

/-- A number with a number of places after the point. -/
def fixed (mantissa : Nat) (exponent : Int) (places : Nat) (keepsPoint : Bool) : Text :=
  let value := ratio mantissa exponent
  let number := roundRatio (value.1 * Nat.pow 10 places) value.2
  withPoint (Text.ofPadded (places + 1) number) places keepsPoint

/-- The first `count` digits of a number, rounded, and the power of ten of the first of them. -/
def leading (mantissa : Nat) (exponent : Int) (count : Nat) : Nat × Int :=
  if mantissa = 0 then (0, 0)
  else
    let value := ratio mantissa exponent
    let place := magnitude value - count
    let unit := scale 1 10 place
    let number := roundRatio (value.1 * unit.2) (value.2 * unit.1)
    if number = Nat.pow 10 count then (Nat.pow 10 (count - 1), place + count)
    else (number, place + count - 1)

/-- A power of ten after a letter, with a sign and at least two digits. -/
def powerText (power : Int) : Text :=
  Text.ofString (if power < 0 then "e-" else "e+") ++ Text.ofPadded 2 power.natAbs

/-- A number with one digit before the point, a number of places after it, and an exponent. -/
def scientific (mantissa : Nat) (exponent : Int) (places : Nat) (keepsPoint : Bool) : Text :=
  let (number, power) := leading mantissa exponent (places + 1)
  withPoint (Text.ofPadded (places + 1) number) places keepsPoint ++ powerText power

/--
A number with `count` digits, positional unless there are more than that before the point or four or
more zeros after it. Zeros at the end go, unless the point is kept.
-/
def general (mantissa : Nat) (exponent : Int) (count : Nat) (keepsPoint : Bool) : Text :=
  let (number, power) := leading mantissa exponent count
  let trimmed (digits : Text) : Text := if keepsPoint then digits else withoutZeros digits
  if power < -4 || (count : Int) ≤ power then
    trimmed (withPoint (Text.ofPadded count number) (count - 1) keepsPoint) ++ powerText power
  else
    let places := ((count : Int) - 1 - power).toNat
    trimmed (withPoint (Text.ofPadded (places + 1) number) places keepsPoint)

end Binary64

end IndexWire
