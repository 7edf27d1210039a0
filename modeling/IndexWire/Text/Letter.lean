import IndexWire.Text.CodePoint

/-!
# Letters

The two cases of the letters of the basic alphabet, texts brought to a width, and the order of texts
by code point.
-/

namespace IndexWire

namespace CodePoint

def lower (point : CodePoint) : CodePoint :=
  if 0x41 ≤ point.value && point.value ≤ 0x5A then ofNat (point.value + 0x20) else point

/--
The capitals of a small letter, where they are in the basic alphabet: a few letters outside of it
have one or more such capitals.
-/
def capitals (point : CodePoint) : Text :=
  if 0x61 ≤ point.value && point.value ≤ 0x7A then [ofNat (point.value - 0x20)]
  else if point.value = 0xDF then Text.ofString "SS"
  else if point.value = 0x131 then Text.ofString "I"
  else if point.value = 0x17F then Text.ofString "S"
  else if point.value = 0xFB00 then Text.ofString "FF"
  else if point.value = 0xFB01 then Text.ofString "FI"
  else if point.value = 0xFB02 then Text.ofString "FL"
  else if point.value = 0xFB03 then Text.ofString "FFI"
  else if point.value = 0xFB04 then Text.ofString "FFL"
  else if point.value = 0xFB05 || point.value = 0xFB06 then Text.ofString "ST"
  else [point]

end CodePoint

namespace Text

def lower (text : Text) : Text := text.map CodePoint.lower

def upper (text : Text) : Text := text.flatMap CodePoint.capitals

/-- A text with blanks after it up to a width; a longer text stays. -/
def padRight (width : Nat) (text : Text) : Text :=
  text ++ List.replicate (width - text.length) (CodePoint.ofChar ' ')

/-- Whether a text stands before another, or is the same, in the order of code points. -/
def comesFirst : Text → Text → Bool
  | [], _ => true
  | _ :: _, [] => false
  | left :: lefts, right :: rights =>
    if left.value = right.value then comesFirst lefts rights else left.value < right.value

end Text

end IndexWire
