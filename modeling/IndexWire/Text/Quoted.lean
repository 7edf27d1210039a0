import IndexWire.Bytes
import IndexWire.Text.Printable

/-!
# Quoted text

How a text or a byte string is shown inside a message: between quotes, with a backslash before the
quote and the backslash, and with the number of whatever is not printable.
-/

namespace IndexWire

namespace Text

/-- A number in lower-case hexadecimal digits, padded with zeros to a width. -/
def ofHex (width number : Nat) : Text :=
  let digits := (Nat.toDigits 16 number).map CodePoint.ofChar
  List.replicate (width - digits.length) (CodePoint.ofChar '0') ++ digits

def hexDigit? (number : Nat) : Option Nat :=
  if 0x30 ≤ number && number ≤ 0x39 then some (number - 0x30)
  else if 0x61 ≤ number && number ≤ 0x66 then some (number - 0x61 + 10)
  else if 0x41 ≤ number && number ≤ 0x46 then some (number - 0x41 + 10)
  else none

/-- The number that hexadecimal digits denote. -/
def hexNumber? (digits : Text) : Option Nat :=
  digits.foldlM (fun number digit => (hexDigit? digit.value).map (number * 16 + ·)) 0

namespace Quoted

/-- The quote around a text: the single one, unless the text holds it and not the double one. -/
def quote (hasSingle hasDouble : Bool) : CodePoint :=
  CodePoint.ofChar (if hasSingle && !hasDouble then '"' else '\'')

/-- What is written for a code point that has a letter of its own after a backslash. -/
def letter? (number : Nat) : Option Char :=
  if number = 0x09 then some 't'
  else if number = 0x0A then some 'n'
  else if number = 0x0D then some 'r'
  else none

/-- The number of a code point after a backslash and a letter that tells how many digits it has. -/
def numbered (number : Nat) : Text :=
  if number < 0x100 then ofString "\\x" ++ ofHex 2 number
  else if number < 0x10000 then ofString "\\u" ++ ofHex 4 number
  else ofString "\\U" ++ ofHex 8 number

/-- A code point between quotes of a text. -/
def escape (quote point : CodePoint) : Text :=
  let number := point.value
  if point = quote || point.is '\\' then [CodePoint.ofChar '\\', point]
  else
    match letter? number with
    | some letter => [CodePoint.ofChar '\\', CodePoint.ofChar letter]
    | none =>
      if point.isPrintable then [point] else numbered number

/--
A byte between quotes of a byte string, where `isQuote` tells the bytes to put a backslash before.
-/
def escapeByte (isQuote : UInt8 → Bool) (byte : UInt8) : Text :=
  let point := CodePoint.ofNat byte.toNat
  if isQuote byte || point.is '\\' then [CodePoint.ofChar '\\', point]
  else
    match letter? byte.toNat with
    | some letter => [CodePoint.ofChar '\\', CodePoint.ofChar letter]
    | none =>
      if 0x20 ≤ byte.toNat && byte.toNat < 0x7F then [point]
      else ofString "\\x" ++ ofHex 2 byte.toNat

end Quoted

def quoted (text : Text) : Text :=
  let quote := Quoted.quote (text.any (·.is '\'')) (text.any (·.is '"'))
  quote :: text.flatMap (Quoted.escape quote) ++ [quote]

/-- A text in ASCII, in which every other code point is written by its number. -/
def inAscii (text : Text) : Text :=
  text.flatMap fun point => if point.value < 0x80 then [point] else Quoted.numbered point.value

/-- A byte string between quotes, after the letter `b`. -/
def quotedBytes (bytes : Bytes) : Text :=
  let quote := Quoted.quote (bytes.contains 0x27) (bytes.contains 0x22)
  CodePoint.ofChar 'b' :: quote
    :: bytes.flatMap (Quoted.escapeByte fun byte => byte.toNat = quote.value) ++ [quote]

/-- The bytes of a mutable byte string between quotes; here every single quote gets a backslash. -/
def quotedMutableBytes (bytes : Bytes) : Text :=
  let quote := Quoted.quote (bytes.contains 0x27) (bytes.contains 0x22)
  ofString "bytearray(b" ++ quote
    :: bytes.flatMap (Quoted.escapeByte fun byte => byte = 0x27) ++ [quote] ++ ofString ")"

end Text

end IndexWire
