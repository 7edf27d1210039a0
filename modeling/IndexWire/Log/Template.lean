import IndexWire.Log.Placeholder

/-!
# Message templates

Messages with places for values. A place is a percent sign, and then in this order a key in
parentheses, flags, a width, a precision, a letter for the size of the value that changes nothing,
and the letter of a conversion; all but the last may be missing. A width or a precision may be a
star, which takes the next value for it. Two percent signs stand for one. `fill` puts values into a
template; where it does not suit them, there is no message.
-/

namespace IndexWire

namespace Log

namespace Template

inductive Measure where
  | absent
  | number (number : Nat)
  | next
deriving DecidableEq

structure Place where
  key : Option Text
  flags : Text
  /-- The least number of code points. -/
  width : Measure
  precision : Measure
  /-- What becomes of the value. -/
  conversion : Conversion

inductive Part where
  /-- Text that stands for itself. -/
  | literal (point : CodePoint)
  | place (place : Place)

def isFlag (point : CodePoint) : Bool :=
  point.is '-' || point.is '+' || point.is ' ' || point.is '#' || point.is '0'

/-- Whether a code point is a decimal digit of the basic alphabet. -/
def isDigit (point : CodePoint) : Bool := 0x30 ≤ point.value && point.value ≤ 0x39

/-- Whether a code point is a letter for the size of a value. -/
def isSize (point : CodePoint) : Bool := point.is 'h' || point.is 'l' || point.is 'L'

def numberOf (digits : Text) : Nat :=
  digits.foldl (fun number digit => number * 10 + (digit.value - 0x30)) 0

def widthLimit : Nat := Nat.pow 2 63 - 1

def precisionLimit : Nat := Nat.pow 2 31 - 1

/-- The text up to the parenthesis that closes `depth` open ones, and what follows it. -/
def closing? (depth : Nat) : Text → Option (Text × Text)
  | [] => none
  | point :: rest =>
    if point.is ')' && depth = 1 then some ([], rest)
    else
      let inner :=
        if point.is ')' then depth - 1 else if point.is '(' then depth + 1 else depth
      (closing? inner rest).map fun (before, after) => (point :: before, after)

/-- A key in parentheses at the start of a text, and what follows. -/
def key? : Text → Option (Option Text × Text)
  | [] => some (none, [])
  | first :: rest =>
    if first.is '(' then (closing? 1 rest).map fun (key, after) => (some key, after)
    else some (none, first :: rest)

/-- A number or a star at the start of a text, and what follows. -/
def measure? (limit : Nat) (text : Text) : Option (Measure × Text) :=
  match text with
  | [] => some (.absent, [])
  | first :: rest =>
    if first.is '*' then some (.next, rest)
    else if isDigit first then
      let number := numberOf (text.takeWhile isDigit)
      if number ≤ limit then some (.number number, text.dropWhile isDigit) else none
    else some (.absent, text)

/--
A precision after a point at the start of a text, and what follows; without digits it is zero.
-/
def precision? (text : Text) : Option (Measure × Text) :=
  match text with
  | [] => some (.absent, [])
  | first :: rest =>
    if first.is '.' then
      (measure? precisionLimit rest).map fun (measure, after) =>
        (if measure = .absent then .number 0 else measure, after)
    else some (.absent, text)

/-- What stands after a percent sign, and what follows. -/
def part? (text : Text) : Option (Part × Text) := do
  match text with
  | [] => none
  | first :: rest =>
    if first.is '%' then return (.literal first, rest)
    let (key, text) ← key? text
    let flags := text.takeWhile isFlag
    let (width, text) ← measure? widthLimit (text.dropWhile isFlag)
    let (precision, text) ← precision? text
    match if text.head?.any isSize then text.drop 1 else text with
    | [] => none
    | letter :: rest =>
      let conversion ← Conversion.ofLetter? letter
      return (.place { key, flags, width, precision, conversion }, rest)

/-- The parts of a template; `fuel` bounds their number. -/
def partsWithin : (fuel : Nat) → Text → Option (List Part)
  | _, [] => some []
  | 0, _ :: _ => none
  | fuel + 1, point :: rest =>
    if point.is '%' then
      match part? rest with
      | none => none
      | some (part, later) => (partsWithin fuel later).map (part :: ·)
    else (partsWithin fuel rest).map (.literal point :: ·)

def parts (template : Text) : Option (List Part) := partsWithin template.length template

/-- The values that are still to be put into a template. -/
inductive Supply where
  /-- Values in order. -/
  | inOrder (values : List Value)
  /-- The values of a dictionary by their keys, and the one that is at hand. -/
  | byKey (entries : List (Value × Value)) (atHand : Option Value)

namespace Supply

/-- The next value, and what is left. -/
def next? : Supply → Option (Value × Supply)
  | inOrder [] => none
  | inOrder (value :: rest) => some (value, inOrder rest)
  | byKey entries atHand => atHand.map fun value => (value, byKey entries none)

/-- Takes the value of a key to hand. -/
def select? (supply : Supply) (key : Option Text) : Option Supply :=
  match key, supply with
  | none, _ => some supply
  | some _, inOrder _ => none
  | some key, byKey entries _ =>
    (entries.find? fun entry => entry.1.text? = some key).map fun entry =>
      byKey entries (some entry.2)

/-- Whether values are left over that stand in order. -/
def isLeftOver : Supply → Bool
  | inOrder (_ :: _) => true
  | _ => false

/-- The integer of a measure that is given. -/
def measure? (supply : Supply) : Measure → Option (Option Int × Supply)
  | .absent => some (none, supply)
  | .number number => some (some number, supply)
  | .next => do
    let (value, rest) ← supply.next?
    return (some (← Placeholder.index? value), rest)

end Supply

/-- The placeholder of a place; a negative width stands for the flag that puts blanks behind. -/
def Place.placeholder? (place : Place) (supply : Supply) : Option (Placeholder × Supply) := do
  let (width, supply) ← supply.measure? place.width
  let (precision, supply) ← supply.measure? place.precision
  if widthLimit < (width.getD 0).natAbs || precisionLimit < (precision.getD 0).natAbs then none
  let flags := if width.getD 0 < 0 then CodePoint.ofChar '-' :: place.flags else place.flags
  return (
    { flags
      width := (width.getD 0).natAbs
      precision := precision.map Int.toNat
      conversion := place.conversion }, supply)

/-- The text of a place, and the values that are left. -/
def Place.fill? (place : Place) (supply : Supply) : Option (Text × Supply) := do
  let supply ← supply.select? place.key
  let (placeholder, supply) ← place.placeholder? supply
  let (value, supply) ← supply.next?
  return (← placeholder.fit value, supply)

/-- Puts values into parts, so that none is left over. -/
def fillParts (supply : Supply) : List Part → Option Text
  | [] => if supply.isLeftOver then none else some []
  | .literal point :: rest => (fillParts supply rest).map (point :: ·)
  | .place place :: rest => do
    let (text, supply) ← place.fill? supply
    return text ++ (← fillParts supply rest)

/--
The message of a template and its values. Without values the template is the message; a single
dictionary that is not empty gives its values by their keys.
-/
def fill (template : Text) (values : List Value) : Option Text :=
  match values with
  | [] => some template
  | [.dict (first :: rest)] =>
    let entries := first :: rest
    (parts template).bind (fillParts (.byKey entries (some (.dict entries))))
  | values => (parts template).bind (fillParts (.inOrder values))

end Template

end Log

end IndexWire
