import IndexWire.Text.CodePoint

/-!
# Double-precision numbers

Numbers with 53 bits of precision, as exact fractions. `ofRatio` rounds a fraction to the nearest
such number, a tie to the even one; `text` writes the fewest decimal digits that round back.
-/

namespace IndexWire

/-- A double-precision number. -/
inductive Binary64 where
  /-- The number `mantissa * 2 ^ exponent`, with a sign that also zero has. -/
  | finite (negative : Bool) (mantissa : Nat) (exponent : Int)
  /-- A number beyond the largest finite one. -/
  | infinite (negative : Bool)
  /-- The result of an undefined operation. -/
  | notANumber
deriving DecidableEq

namespace Binary64

/-- The fraction `number * base ^ exponent`, as numerator and denominator. -/
def scale (number base : Nat) (exponent : Int) : Nat × Nat :=
  if exponent < 0 then (number, Nat.pow base (-exponent).toNat)
  else (number * Nat.pow base exponent.toNat, 1)

/-- Whether one fraction is at most another. -/
def atMost (left right : Nat × Nat) : Bool := left.1 * right.2 ≤ right.1 * left.2

/-- The natural number nearest to a fraction, of two equally near the even one. -/
def roundRatio (numerator denominator : Nat) : Nat :=
  let whole := numerator / denominator
  let rest := 2 * (numerator % denominator)
  if rest < denominator || (rest = denominator && whole % 2 = 0) then whole else whole + 1

/-- The double-precision number nearest to a fraction. -/
def ofRatio (negative : Bool) (numerator denominator : Nat) : Binary64 :=
  if numerator = 0 then .finite negative 0 (-1074)
  else
    let guess : Int := numerator.log2 - denominator.log2 - 52
    let fraction (exponent : Int) : Nat × Nat :=
      let (factor, divisor) := scale 1 2 (-exponent)
      (numerator * factor, denominator * divisor)
    let low := fraction guess
    let exponent := max (-1074) (if low.1 / low.2 < Nat.pow 2 52 then guess - 1 else guess)
    let exact := fraction exponent
    let mantissa := roundRatio exact.1 exact.2
    let (mantissa, exponent) :=
      if mantissa = Nat.pow 2 53 then (Nat.pow 2 52, exponent + 1) else (mantissa, exponent)
    if exponent > 971 then .infinite negative else .finite negative mantissa exponent

/--
The number `coefficient * 10 ^ exponent`, rounded. A number of more than 310 digits before the point
is beyond all finite ones, and one with more than 330 zeros after it is nearest to zero.
-/
def ofDecimal (negative : Bool) (coefficient : Nat) (exponent : Int) : Binary64 :=
  let point := exponent + (Nat.toDigits 10 coefficient).length
  if coefficient = 0 || point < -330 then .finite negative 0 (-1074)
  else if 310 < point then .infinite negative
  else
    let (numerator, denominator) := scale coefficient 10 exponent
    ofRatio negative numerator denominator

/-- The fraction that a finite number is, without its sign. -/
def ratio (mantissa : Nat) (exponent : Int) : Nat × Nat := scale mantissa 2 exponent

/-- The sum of two numbers that are not negative, rounded. -/
def add : Binary64 → Binary64 → Binary64
  | .finite _ leftMantissa leftExponent, .finite _ rightMantissa rightExponent =>
    let left := ratio leftMantissa leftExponent
    let right := ratio rightMantissa rightExponent
    ofRatio false (left.1 * right.2 + right.1 * left.2) (left.2 * right.2)
  | .notANumber, _ => .notANumber
  | _, .notANumber => .notANumber
  | _, _ => .infinite false

/-- The product of two numbers that are not negative, the second of which is finite, rounded. -/
def mul : Binary64 → Binary64 → Binary64
  | .finite _ leftMantissa leftExponent, .finite _ rightMantissa rightExponent =>
    let left := ratio leftMantissa leftExponent
    let right := ratio rightMantissa rightExponent
    ofRatio false (left.1 * right.1) (left.2 * right.2)
  | other, _ => other

/-- The number nearest to an integer, if that is not beyond all finite ones. -/
def ofInt? (number : Int) : Option Binary64 :=
  match ofRatio (number < 0) number.natAbs 1 with
  | .finite negative mantissa exponent => some (.finite negative mantissa exponent)
  | _ => none

/-- The number with its sign set. -/
def withSign (negative : Bool) : Binary64 → Binary64
  | .finite _ mantissa exponent => .finite negative mantissa exponent
  | .infinite _ => .infinite negative
  | .notANumber => .notANumber

/--
How many decimal digits stand before the point of a positive fraction; zero or less below one tenth.
-/
def magnitude (value : Nat × Nat) : Int :=
  if value.2 ≤ value.1 then (Nat.toDigits 10 (value.1 / value.2)).length
  else
    let digits := (Nat.toDigits 10 (value.2 / value.1)).length
    if value.2 ≤ value.1 * Nat.pow 10 (digits - 1) then 2 - digits else 1 - digits

/--
The decimal `coefficient * 10 ^ exponent` nearest to a number among those with `count` digits, if it
rounds to that number.
-/
def decimal? (mantissa : Nat) (exponent : Int) (count : Nat) : Option (Nat × Int) :=
  let value := ratio mantissa exponent
  let narrow := mantissa = Nat.pow 2 52 && exponent > -1074
  let least := scale (4 * mantissa - if narrow then 1 else 2) 2 (exponent - 2)
  let greatest := scale (4 * mantissa + 2) 2 (exponent - 2)
  let place := magnitude value - count
  let unit := scale 1 10 place
  let numerator := value.1 * unit.2
  let denominator := value.2 * unit.1
  let inside (coefficient : Nat) : Bool :=
    let candidate := scale coefficient 10 place
    if mantissa % 2 = 0 then atMost least candidate && atMost candidate greatest
    else !atMost candidate least && !atMost greatest candidate
  let nearest := roundRatio numerator denominator
  let below := numerator / denominator
  [nearest, below, below + 1].find? inside |>.map fun coefficient => (coefficient, place)

/-- The decimal with the fewest digits that rounds to a positive number. -/
def shortest (mantissa : Nat) (exponent : Int) : Nat × Int :=
  ((List.range 17).findSome? fun count => decimal? mantissa exponent (count + 1)).getD
    (mantissa, exponent)

/-- The digits of a number without the zeros at its end, and how many were dropped. -/
def significant (number : Nat) : Text × Nat :=
  let digits := Text.ofNat number
  let kept := (digits.reverse.dropWhile (·.is '0')).reverse
  (kept, digits.length - kept.length)

/--
The text of a decimal with the point after `point` digits: positional when the point falls within
four zeros before the digits and sixteen digits, with an exponent otherwise.
-/
def layout (digits : Text) (point : Int) : Text :=
  let zeros (count : Int) := List.replicate count.toNat (CodePoint.ofChar '0')
  let dot := CodePoint.ofChar '.'
  if -4 < point && point ≤ 16 then
    if point ≤ 0 then zeros 1 ++ dot :: zeros (-point) ++ digits
    else if point < digits.length then digits.take point.toNat ++ dot :: digits.drop point.toNat
    else digits ++ zeros (point - digits.length) ++ Text.ofString ".0"
  else
    let exponent := point - 1
    let power := Text.ofNat exponent.natAbs
    digits.take 1 ++ (if digits.length > 1 then dot :: digits.drop 1 else [])
      ++ Text.ofString (if exponent < 0 then "e-" else "e+")
      ++ zeros (2 - power.length) ++ power

/-- The shortest text that denotes a number. -/
def text : Binary64 → Text
  | .notANumber => Text.ofString "nan"
  | .infinite negative => Text.ofString (if negative then "-inf" else "inf")
  | .finite negative mantissa exponent =>
    let sign := if negative then [CodePoint.ofChar '-'] else []
    if mantissa = 0 then sign ++ Text.ofString "0.0"
    else
      let (coefficient, place) := shortest mantissa exponent
      let (digits, dropped) := significant coefficient
      sign ++ layout digits (place + dropped + digits.length)

end Binary64

end IndexWire
