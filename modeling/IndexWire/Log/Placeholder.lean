import IndexWire.Binary64.Rounded
import IndexWire.Value.Literal

/-!
# Placeholders

How a value is put into a message: as text, as an integer in one of three bases, as a
double-precision number in one of three layouts, or as one code point. `fit` gives the text of a
value, brought to the width that is asked for; there is none if the value is of a wrong kind.
-/

namespace IndexWire

namespace Log

inductive Conversion where
  /-- The value as it stands for itself. -/
  | shown
  /-- The value as a literal. -/
  | literal
  /-- The value as a literal in ASCII. -/
  | asciiLiteral
  | decimal
  /-- An integer in base eight. -/
  | octal
  /-- An integer in base sixteen, with digits of either case. -/
  | hexadecimal (isCapital : Bool)
  /-- A number with places after the point, with letters of either case. -/
  | fixed (isCapital : Bool)
  /-- A number with an exponent. -/
  | scientific (isCapital : Bool)
  /-- A number in whichever of these two layouts suits it. -/
  | general (isCapital : Bool)
  /-- A code point, given as a text or by its number. -/
  | character
deriving DecidableEq

def Conversion.ofLetter? (letter : CodePoint) : Option Conversion :=
  ([('s', shown), ('r', literal), ('a', asciiLiteral), ('d', decimal), ('i', decimal),
    ('u', decimal), ('o', octal), ('x', hexadecimal false), ('X', hexadecimal true),
    ('f', fixed false), ('F', fixed true), ('e', scientific false), ('E', scientific true),
    ('g', general false), ('G', general true),
    ('c', character)].find? fun entry => letter.is entry.1).map Prod.snd

/-- How a value is put into a message. -/
structure Placeholder where
  flags : Text := []
  /-- The least number of code points. -/
  width : Nat := 0
  /-- The most code points of a text, the fewest digits of an integer, or the places of a number. -/
  precision : Option Nat := none
  /-- What becomes of the value. -/
  conversion : Conversion

namespace Placeholder

def has (placeholder : Placeholder) (flag : Char) : Bool := placeholder.flags.any (·.is flag)

/-- Blanks or zeros that bring a number of code points to the width. -/
def padding (placeholder : Placeholder) (filler : Char) (length : Nat) : Text :=
  List.replicate (placeholder.width - length) (CodePoint.ofChar filler)

def padded (placeholder : Placeholder) (text : Text) : Text :=
  if placeholder.has '-' then text ++ placeholder.padding ' ' text.length
  else placeholder.padding ' ' text.length ++ text

/-- A text cut to the precision and brought to the width. -/
def fitText (placeholder : Placeholder) (text : Text) : Text :=
  placeholder.padded (text.take (placeholder.precision.getD text.length))

/-- What stands before the digits of a number: its sign, or what the flags put in its place. -/
def signText (placeholder : Placeholder) (isNegative : Bool) : Text :=
  Text.ofString <|
    if isNegative then "-"
    else if placeholder.has '+' then "+"
    else if placeholder.has ' ' then " "
    else ""

/-- A number brought to the width, with zeros between what leads and the digits if that is asked. -/
def fitNumber (placeholder : Placeholder) (lead digits : Text) : Text :=
  if placeholder.has '0' && !placeholder.has '-' then
    lead ++ placeholder.padding '0' (lead.length + digits.length) ++ digits
  else placeholder.padded (lead ++ digits)

/-- An integer in a base, with what marks the base before the digits if that is asked. -/
def fitInt (placeholder : Placeholder) (base : Nat) (mark : String) (isCapital : Bool)
    (number : Int) : Text :=
  let digits := Nat.toDigits base number.natAbs
  let digits := if isCapital then digits.map Char.toUpper else digits
  let zeros := List.replicate (placeholder.precision.getD 0 - digits.length) '0'
  let mark := if placeholder.has '#' then Text.ofString mark else []
  placeholder.fitNumber (placeholder.signText (number < 0) ++ mark)
    ((zeros ++ digits).map CodePoint.ofChar)

/-- A double-precision number in a layout of its digits. -/
def fitFloat (placeholder : Placeholder) (isCapital : Bool)
    (layout : (mantissa : Nat) → (exponent : Int) → (precision : Nat) →
      (keepsPoint : Bool) → Text) : Binary64 → Text
  | .finite negative mantissa exponent =>
    let digits := layout mantissa exponent (placeholder.precision.getD 6) (placeholder.has '#')
    let capital (point : CodePoint) : CodePoint :=
      if isCapital && point.is 'e' then CodePoint.ofChar 'E' else point
    placeholder.fitNumber (placeholder.signText negative) (digits.map capital)
  | .infinite negative =>
    placeholder.fitNumber (placeholder.signText negative)
      (Text.ofString (if isCapital then "INF" else "inf"))
  | .notANumber =>
    placeholder.fitNumber (placeholder.signText false)
      (Text.ofString (if isCapital then "NAN" else "nan"))

/-- The integer that a value is. -/
def index? : Value → Option Int
  | .int number => some number
  | .bool truth => some truth.toNat
  | _ => none

/-- The integer that a value is, or that it is cut to. -/
def integer? : Value → Option Int
  | .float (.finite negative mantissa exponent) =>
    let (numerator, denominator) := Binary64.ratio mantissa exponent
    let whole : Int := (numerator / denominator : Nat)
    some (if negative then -whole else whole)
  | other => index? other

/-- The double-precision number that a value is, or that is nearest to it. -/
def float? (value : Value) : Option Binary64 :=
  match value with
  | .float number => some number
  | other => (index? other).bind Binary64.ofInt?

/-- The code point that a value is or has the number of. -/
def character? (value : Value) : Option CodePoint :=
  match value, index? value with
  | .text [point], _ => some point
  | _, some number =>
    if 0 ≤ number ∧ number < 0x110000 then some (.ofNat number.toNat) else none
  | _, none => none

/-- The text that a value is put in as, if it is of the right kind. -/
def fit (placeholder : Placeholder) (value : Value) : Option Text :=
  match placeholder.conversion with
  | .shown => some (placeholder.fitText value.shown)
  | .literal => some (placeholder.fitText value.literal)
  | .asciiLiteral => some (placeholder.fitText value.literal.inAscii)
  | .decimal => (integer? value).map (placeholder.fitInt 10 "" false)
  | .octal => (index? value).map (placeholder.fitInt 8 "0o" false)
  | .hexadecimal isCapital =>
    (index? value).map (placeholder.fitInt 16 (if isCapital then "0X" else "0x") isCapital)
  | .fixed isCapital => (float? value).map (placeholder.fitFloat isCapital Binary64.fixed)
  | .scientific isCapital => (float? value).map (placeholder.fitFloat isCapital Binary64.scientific)
  | .general isCapital =>
    (float? value).map (placeholder.fitFloat isCapital fun mantissa exponent precision =>
      Binary64.general mantissa exponent (max 1 precision))
  | .character => (character? value).map fun point => placeholder.padded [point]

end Placeholder

end Log

end IndexWire
