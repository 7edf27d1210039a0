import IndexWire.Text.Digit

/-!
# Numbers in text

Reading integers from text: digits of any script, single underscores between digits, a sign, and
blanks around the whole. There is a limit to the number of digits.
-/

namespace IndexWire

namespace Text

/-- Drops the code points that satisfy a test from both ends. -/
def strip (test : CodePoint → Bool) (text : Text) : Text :=
  ((text.dropWhile test).reverse.dropWhile test).reverse

/--
Reads digits with single underscores between them onto the number read so far; `afterDigit` tells
whether the code point before was a digit.
-/
def digitsFrom (number : Nat) (afterDigit : Bool) : Text → Option Nat
  | [] => if afterDigit then some number else none
  | point :: rest =>
    match point.digit? with
    | some digit => digitsFrom (number * 10 + digit) true rest
    | none => if afterDigit && point.is '_' then digitsFrom number false rest else none

/-- The most digits that a number in text may have. -/
def digitLimit : Nat := 4300

/-- The natural number that digits with single underscores between them denote. -/
def toNat? (text : Text) : Option Nat :=
  if (text.filter fun point => point.digit?.isSome).length ≤ digitLimit then
    digitsFrom 0 false text
  else none

def toInt? (text : Text) : Option Int :=
  match strip CodePoint.isBlank text with
  | [] => none
  | sign :: digits =>
    if sign.is '-' then (toNat? digits).map fun number => -(number : Int)
    else if sign.is '+' then (toNat? digits).map Int.ofNat
    else (toNat? (sign :: digits)).map Int.ofNat

end Text

end IndexWire
