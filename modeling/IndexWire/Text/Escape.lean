import IndexWire.Text.Quoted

/-!
# Escape sequences

What a terminal would take as a command and not as text: the escape character, a bracket, parameters
and a letter. Text that is printed anywhere else goes without them. Surrogates, which have no
encoding, can be spelled by their numbers.
-/

namespace IndexWire

namespace Text

def isParameter (point : CodePoint) : Bool :=
  point.is ';' || point.is '?' || (0x30 ≤ point.value && point.value ≤ 0x39)

/-- Whether a code point is a letter of the basic alphabet. -/
def isLetter (point : CodePoint) : Bool :=
  (0x41 ≤ point.value && point.value ≤ 0x5A) || (0x61 ≤ point.value && point.value ≤ 0x7A)

/-- The number of code points of the escape sequence at the start of a text, or zero. -/
def escapeLength : Text → Nat
  | escape :: bracket :: rest =>
    if escape.value = 0x1B && bracket.is '[' then
      match rest.dropWhile isParameter with
      | letter :: _ => if isLetter letter then (rest.takeWhile isParameter).length + 3 else 0
      | [] => 0
    else 0
  | _ => 0

/-- Drops escape sequences; `hidden` counts the code points that belong to one begun before. -/
def withoutEscapesFrom : (hidden : Nat) → Text → Text
  | _, [] => []
  | hidden + 1, _ :: rest => withoutEscapesFrom hidden rest
  | 0, point :: rest =>
    match escapeLength (point :: rest) with
    | 0 => point :: withoutEscapesFrom 0 rest
    | length + 1 => withoutEscapesFrom length rest

def withoutEscapes (text : Text) : Text := withoutEscapesFrom 0 text

/-- A code point, or the number of a surrogate after a backslash. -/
def spellSurrogate (point : CodePoint) : Text :=
  if point.isSurrogate then ofString "\\u" ++ ofHex 4 point.value else [point]

/-- A text with its surrogates spelled by their numbers. -/
def withSurrogatesSpelled (text : Text) : Text := text.flatMap spellSurrogate

end Text

end IndexWire
