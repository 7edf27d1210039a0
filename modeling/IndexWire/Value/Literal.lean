import IndexWire.Text.Quoted
import IndexWire.Value.Basic

/-!
# Values as text

`literal` writes a value as it stands inside a list, with text between quotes; `shown` is the same
but for a text and a date, which stand for themselves.
-/

namespace IndexWire

namespace Value

def truthWord (truth : Bool) : Text := Text.ofString (if truth then "True" else "False")

mutual

/-- A value as it stands inside a list or a dictionary. -/
def literal : Value → Text
  | none => Text.ofString "None"
  | bool truth => truthWord truth
  | int number => Text.ofInt number
  | float number => number.text
  | text content => Text.quoted content
  | bytes .constant content => Text.quotedBytes content
  | bytes .mutable content => Text.quotedMutableBytes content
  | bytes (.view _) _ => Text.ofString "<memory>"
  | date day => day.literal
  | moment time => time.literal
  | list items => Text.ofString "[" ++ Text.listed (literals items) ++ Text.ofString "]"
  | dict entries =>
    Text.ofString "\x7b" ++ Text.listed (entryLiterals entries) ++ Text.ofString "\x7d"

def literals : List Value → List Text
  | [] => []
  | item :: rest => literal item :: literals rest

/-- The literals of entries, key and value with a colon between them. -/
def entryLiterals : List (Value × Value) → List Text
  | [] => []
  | (key, value) :: rest =>
    (literal key ++ Text.ofString ": " ++ literal value) :: entryLiterals rest

end

/-- A value as it stands for itself. -/
def shown : Value → Text
  | text content => content
  | date day => day.shown
  | moment time => time.shown
  | other => literal other

end Value

end IndexWire
