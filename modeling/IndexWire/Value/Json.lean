import IndexWire.Value.Literal

/-!
# Values as JSON

The JSON text of a value, in ASCII only: whatever is not printable ASCII is written by its UTF-16
units. A value that JSON does not know is written as the text that stands for it; as a key it has no
place.
-/

namespace IndexWire

namespace Json

/-- One UTF-16 unit by its number. -/
def unit (number : Nat) : Text := Text.ofString "\\u" ++ Text.ofHex 4 number

/-- A code point between the quotes of a JSON text. -/
def escape (point : CodePoint) : Text :=
  let number := point.value
  if point.is '"' || point.is '\\' then [CodePoint.ofChar '\\', point]
  else if 0x20 ≤ number && number < 0x7F then [point]
  else if number = 0x0A then Text.ofString "\\n"
  else if number = 0x0D then Text.ofString "\\r"
  else if number = 0x09 then Text.ofString "\\t"
  else if number = 0x08 then Text.ofString "\\b"
  else if number = 0x0C then Text.ofString "\\f"
  else if number < 0x10000 then unit number
  else unit (0xD800 + (number - 0x10000) / 0x400) ++ unit (0xDC00 + (number - 0x10000) % 0x400)

def string (text : Text) : Text :=
  Text.ofString "\"" ++ text.flatMap escape ++ Text.ofString "\""

/-- The word for a truth value. -/
def truthWord (truth : Bool) : Text := Text.ofString (if truth then "true" else "false")

/-- A double-precision number; the infinite ones and the undefined one have words. -/
def number : Binary64 → Text
  | .notANumber => Text.ofString "NaN"
  | .infinite negative => Text.ofString (if negative then "-Infinity" else "Infinity")
  | finite => finite.text

def key : Value → Text
  | .none => Text.ofString "null"
  | .bool truth => truthWord truth
  | .float value => number value
  | other => other.shown

/-- Whether a value can be a key in a JSON object. -/
def isKey : Value → Bool
  | .none | .bool _ | .int _ | .float _ | .text _ => true
  | _ => false

mutual

/-- Whether all dictionaries in a value have keys that can stand in a JSON object. -/
def hasKeys : Value → Bool
  | .list items => allHaveKeys items
  | .dict entries => membersHaveKeys entries
  | _ => true

/-- Whether all dictionaries in values have keys that can stand in a JSON object. -/
def allHaveKeys : List Value → Bool
  | [] => true
  | item :: rest => hasKeys item && allHaveKeys rest

/-- Whether keys, and those of all dictionaries in the values, can stand in a JSON object. -/
def membersHaveKeys : List (Value × Value) → Bool
  | [] => true
  | (name, value) :: rest => isKey name && hasKeys value && membersHaveKeys rest

end

mutual

def ofValue : Value → Text
  | .none => Text.ofString "null"
  | .bool truth => truthWord truth
  | .int value => Text.ofInt value
  | .float value => number value
  | .text content => string content
  | .list items => Text.ofString "[" ++ Text.listed (ofValues items) ++ Text.ofString "]"
  | .dict entries => Text.ofString "\x7b" ++ Text.listed (members entries) ++ Text.ofString "\x7d"
  | .bytes form content => string (Value.literal (.bytes form content))
  | .date day => string day.shown
  | .moment time => string time.shown

def ofValues : List Value → List Text
  | [] => []
  | item :: rest => ofValue item :: ofValues rest

/-- The members of a JSON object, name and value with a colon between them. -/
def members : List (Value × Value) → List Text
  | [] => []
  | (name, value) :: rest =>
    (string (key name) ++ Text.ofString ": " ++ ofValue value) :: members rest

end

/-- The JSON object with named members in order. -/
def ofMembers (entries : List (Text × Value)) : Text :=
  Text.ofString "\x7b"
    ++ Text.listed
      (entries.map fun entry => string entry.1 ++ Text.ofString ": " ++ ofValue entry.2)
    ++ Text.ofString "\x7d"

/-- The JSON object with named members in order, if all keys in it can stand in a JSON object. -/
def ofMembers? (entries : List (Text × Value)) : Option Text :=
  if entries.all fun entry => hasKeys entry.2 then some (ofMembers entries) else none

end Json

end IndexWire
