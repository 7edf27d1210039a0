import IndexWire.Bytes
import IndexWire.Binary64.Basic
import IndexWire.Value.Calendar

/-!
# Values

The values that callers hand to writes and to log calls, and that settings documents hold. Entries
of a dictionary keep their order; a repeated key keeps its first place and takes the last value.
-/

namespace IndexWire

/-- Which of the three forms a byte string has. -/
inductive BytesForm where
  /-- A byte string that cannot change. -/
  | constant
  /-- A byte string that can change. -/
  | mutable
  /-- A view of a byte string kept elsewhere, which can change or not. -/
  | view (isWritable : Bool)
deriving DecidableEq

/-- A value of a kind that is known only when the program runs. -/
inductive Value where
  | none
  | bool (truth : Bool)
  | int (number : Int)
  | float (number : Binary64)
  | text (text : Text)
  | bytes (form : BytesForm) (bytes : Bytes)
  | date (date : Date)
  | moment (moment : Moment)
  | list (items : List Value)
  | dict (entries : List (Value × Value))

/-- The kinds of value, as messages name them. -/
inductive Kind where
  | none | bool | int | float | text | bytes | mutableBytes | view | date | moment | list | dict
deriving DecidableEq

def Kind.name : Kind → String
  | .none => "NoneType"
  | .bool => "bool"
  | .int => "int"
  | .float => "float"
  | .text => "str"
  | .bytes => "bytes"
  | .mutableBytes => "bytearray"
  | .view => "memoryview"
  | .date => "date"
  | .moment => "datetime"
  | .list => "list"
  | .dict => "dict"

/-- Entries of key and value in which a key is put into its first place. -/
def putEntry {κ ν : Type} (same : κ → κ → Bool) (entries : List (κ × ν)) (key : κ) (value : ν) :
    List (κ × ν) :=
  if entries.any fun entry => same entry.1 key then
    entries.map fun entry => if same entry.1 key then (entry.1, value) else entry
  else entries ++ [(key, value)]

/-- The entries of pairs put in one after another. -/
def entriesOf {κ ν : Type} (same : κ → κ → Bool) (pairs : List (κ × ν)) : List (κ × ν) :=
  pairs.foldl (fun entries pair => putEntry same entries pair.1 pair.2) []

namespace Value

instance : Inhabited Value := ⟨none⟩

def kind : Value → Kind
  | none => .none
  | bool _ => .bool
  | int _ => .int
  | float _ => .float
  | text _ => .text
  | bytes .constant _ => .bytes
  | bytes .mutable _ => .mutableBytes
  | bytes (.view _) _ => .view
  | date _ => .date
  | moment _ => .moment
  | list _ => .list
  | dict _ => .dict

/-- The text that a value is, if it is one. -/
def text? : Value → Option Text
  | text content => some content
  | _ => Option.none

def isText (value : Value) (string : String) : Bool := value.text?.any (·.is string)

/-- The number that a value stands for in comparisons, as a fraction with a sign. -/
def ratio? : Value → Option (Int × Nat)
  | bool truth => some (if truth then 1 else 0, 1)
  | int number => some (number, 1)
  | float (.finite negative mantissa exponent) =>
    let (numerator, denominator) := Binary64.ratio mantissa exponent
    some (if negative then -(numerator : Int) else numerator, denominator)
  | _ => Option.none

/--
Whether two values are one key of a dictionary. Numbers are when they are equal as numbers, moments
when they are the same in universal time; the undefined number is always the same key.
-/
def sameKey (left right : Value) : Bool :=
  match ratio? left, ratio? right with
  | some (leftNumerator, leftDenominator), some (rightNumerator, rightDenominator) =>
    leftNumerator * rightDenominator == rightNumerator * leftDenominator
  | _, _ =>
    match left, right with
    | none, none => true
    | float (.infinite leftNegative), float (.infinite rightNegative) =>
      leftNegative == rightNegative
    | float .notANumber, float .notANumber => true
    | text leftText, text rightText => leftText == rightText
    | bytes _ leftBytes, bytes _ rightBytes => leftBytes == rightBytes
    | date leftDate, date rightDate => leftDate == rightDate
    | moment leftMoment, moment rightMoment => leftMoment.isSame rightMoment
    | _, _ => false

def dictOf (pairs : List (Value × Value)) : Value := dict (entriesOf sameKey pairs)

/-- Whether a value counts as something: not nothing, zero, false or empty. -/
def isTruthy : Value → Bool
  | none => false
  | bool truth => truth
  | int number => number != 0
  | float (.finite _ mantissa _) => mantissa != 0
  | float _ => true
  | text content => !content.isEmpty
  | bytes _ content => !content.isEmpty
  | date _ | moment _ => true
  | list items => !items.isEmpty
  | dict entries => !entries.isEmpty

/--
The elements of a value in order: the items of a list, the keys of a dictionary, the code points of
a text, the numbers of a byte string; nothing has no elements, and other kinds have no order.
-/
def elements? : Value → Option (List Value)
  | none => some []
  | text content => some (content.map fun point => text [point])
  | bytes _ content => some (content.map fun byte => int byte.toNat)
  | list items => some items
  | dict entries => some (entries.map Prod.fst)
  | _ => Option.none

end Value

end IndexWire
