/-!
# Code points

Text is a sequence of code points, among which surrogates may stand alone. A high and a low
surrogate together spell one code point above the basic plane; `join` gives it.
-/

namespace IndexWire

/-- A number below `0x110000`: a scalar value or a surrogate. -/
structure CodePoint where
  value : Nat
  inRange : value < 0x110000
deriving DecidableEq

abbrev Text := List CodePoint

namespace CodePoint

@[ext] theorem ext {left right : CodePoint} (same : left.value = right.value) : left = right := by
  cases left
  cases right
  simp_all

instance : Inhabited CodePoint := ⟨⟨0, by decide⟩⟩

/-- The replacement character, which stands for whatever cannot be represented. -/
def replacement : CodePoint := ⟨0xFFFD, by decide⟩

/-- The code point with a number, or the replacement character where there is none. -/
def ofNat (number : Nat) : CodePoint :=
  if valid : number < 0x110000 then ⟨number, valid⟩ else replacement

def ofChar (character : Char) : CodePoint := ofNat character.toNat

/-- A high surrogate is the first half of a pair. -/
def isHigh (point : CodePoint) : Bool := 0xD800 ≤ point.value && point.value ≤ 0xDBFF

/-- A low surrogate is the second half of a pair. -/
def isLow (point : CodePoint) : Bool := 0xDC00 ≤ point.value && point.value ≤ 0xDFFF

/-- A surrogate of either half; such a code point has no encoding of its own. -/
def isSurrogate (point : CodePoint) : Bool := 0xD800 ≤ point.value && point.value ≤ 0xDFFF

/-- The code point above the basic plane that a pair of surrogates spells. -/
def join (high low : CodePoint) : CodePoint :=
  ofNat (0x10000 + ((high.value - 0xD800) <<< 10) + (low.value - 0xDC00))

def is (point : CodePoint) (character : Char) : Bool := point.value == character.toNat

theorem isSurrogate_iff (point : CodePoint) :
    point.isSurrogate = true ↔ point.isHigh = true ∨ point.isLow = true := by
  simp only [isSurrogate, isHigh, isLow, Bool.and_eq_true, decide_eq_true_eq]
  omega

/-- A pair of surrogates spells a code point above the basic plane. -/
theorem value_join {high low : CodePoint} (isHigh : high.isHigh = true) (isLow : low.isLow = true) :
    (join high low).value
      = 0x10000 + (high.value - 0xD800) * 0x400 + (low.value - 0xDC00) := by
  simp only [CodePoint.isHigh, CodePoint.isLow, Bool.and_eq_true, decide_eq_true_eq] at isHigh isLow
  unfold join ofNat
  rw [Nat.shiftLeft_eq, dif_pos (by omega)]

end CodePoint

namespace Text

def ofString (string : String) : Text := string.toList.map CodePoint.ofChar

/-- The decimal digits of a natural number. -/
def ofNat (number : Nat) : Text := (Nat.toDigits 10 number).map CodePoint.ofChar

/-- The decimal digits of a number, padded with zeros to a width. -/
def ofPadded (width number : Nat) : Text :=
  let digits := ofNat number
  List.replicate (width - digits.length) (CodePoint.ofChar '0') ++ digits

/-- The decimal digits of an integer, after a minus sign when it is negative. -/
def ofInt : Int → Text
  | .ofNat number => ofNat number
  | .negSucc number => CodePoint.ofChar '-' :: ofNat (number + 1)

def is (text : Text) (string : String) : Bool := text == ofString string

/-- The texts in order, with a separator between each two. -/
def joinWith (separator : Text) (texts : List Text) : Text :=
  List.intercalate separator texts

end Text

end IndexWire
