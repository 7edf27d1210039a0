import IndexWire.Value.Json

/-!
# Reading JSON

The value that a JSON text denotes. Each reader takes what it reads from the start of a text and
gives it together with the text after it. Two escaped surrogates that make up a pair are one code
point, which is how text above the basic plane is written in ASCII; any other surrogate stands for
itself. An object is a dictionary: a repeated name keeps its first place and takes the last value.
-/

namespace IndexWire

namespace Json

def afterBlanks (text : Text) : Text :=
  text.dropWhile fun point => point.is ' ' || point.is '\t' || point.is '\n' || point.is '\r'

/-- What follows a string at the start of a text. -/
def after? (string : String) (text : Text) : Option Text :=
  let expected := Text.ofString string
  if expected.isPrefixOf text then some (text.drop expected.length) else none

/-- The words of JSON, among them those for the numbers that have no digits. -/
def words : List (String × Value) :=
  [("null", .none), ("true", .bool true), ("false", .bool false), ("NaN", .float .notANumber),
    ("Infinity", .float (.infinite false)), ("-Infinity", .float (.infinite true))]

def readWord? (text : Text) : Option (Value × Text) :=
  words.findSome? fun (word, meaning) => (after? word text).map fun rest => (meaning, rest)

/-! ## Numbers -/

/-- Reads digits, of which there has to be one. -/
def readDigits? (text : Text) : Option (Text × Text) :=
  match text.span fun point => 0x30 ≤ point.value && point.value ≤ 0x39 with
  | ([], _) => none
  | found => some found

def natural (digits : Text) : Nat :=
  digits.foldl (fun high digit => high * 10 + (digit.value - 0x30)) 0

/-- A number with the sign that it has when it is negative. -/
def signed (isNegative : Bool) (number : Nat) : Int :=
  if isNegative then -(number : Int) else number

/-- Reads a minus sign, if there is one, and tells whether there was. -/
def readMinus (text : Text) : Bool × Text :=
  match after? "-" text with
  | some rest => (true, rest)
  | none => (false, text)

/-- Reads the digits before the point of a number; a zero is the only one if it is the first. -/
def readWhole? (text : Text) : Option (Text × Text) :=
  match after? "0" text with
  | some rest => some (Text.ofString "0", rest)
  | none => readDigits? text

/-- Reads a point and the digits after it. -/
def readFraction? (text : Text) : Option (Text × Text) := (after? "." text).bind readDigits?

/-- Reads the letter, the sign and the digits of a power of ten. -/
def readExponent? (text : Text) : Option (Int × Text) := do
  let rest ← after? "e" text <|> after? "E" text
  let (isNegative, rest) := readMinus rest
  let (digits, rest) ← readDigits? (if isNegative then rest else (after? "+" rest).getD rest)
  return (signed isNegative (natural digits), rest)

/-- Reads a number, which is an integer unless it has a fraction or a power of ten. -/
def readNumber? (text : Text) : Option (Value × Text) := do
  let (isNegative, text) := readMinus text
  let (whole, text) ← readWhole? text
  let fraction := readFraction? text
  let text := fraction.elim text Prod.snd
  let exponent := readExponent? text
  if fraction.isNone && exponent.isNone then
    return (.int (signed isNegative (natural whole)), text)
  else
    let places := fraction.elim [] Prod.fst
    return (
      .float (.ofDecimal isNegative (natural (whole ++ places))
        (exponent.elim 0 Prod.fst - places.length)),
      exponent.elim text Prod.snd)

/-! ## Strings -/

/-- What a letter after a backslash stands for. -/
def letter? (point : CodePoint) : Option CodePoint :=
  [('"', 0x22), ('\\', 0x5C), ('/', 0x2F), ('b', 0x08), ('f', 0x0C), ('n', 0x0A), ('r', 0x0D),
    ('t', 0x09)].findSome? fun (letter, meaning) =>
      if point.is letter then some (CodePoint.ofNat meaning) else none

/-- What the text after a backslash stands for, and how many code points of it are about that. -/
def escaped? (text : Text) : Option (CodePoint × Nat) :=
  match after? "u" text with
  | some rest =>
    let digits := rest.take 4
    if digits.length < 4 then none
    else (Text.hexNumber? digits).map fun number => (CodePoint.ofNat number, 5)
  | none => (text.head?.bind letter?).map fun point => (point, 1)

/-- Puts a code point to those before it, last first; the second half of a pair completes it. -/
def pushPoint (before : Text) (point : CodePoint) : Text :=
  match before with
  | high :: earlier =>
    if high.isHigh && point.isLow then .join high point :: earlier else point :: before
  | [] => [point]

/--
Reads a string after its opening quote; `before` is what has been read of it, last first, and
`hidden` counts the code points that belong to an escape begun before.
-/
def readString? (before : Text) : (hidden : Nat) → Text → Option (Text × Text)
  | _, [] => none
  | hidden + 1, _ :: rest => readString? before hidden rest
  | 0, point :: rest =>
    if point.is '"' then some (before.reverse, rest)
    else if point.is '\\' then
      match escaped? rest with
      | some (meaning, length) => readString? (pushPoint before meaning) length rest
      | none => none
    else readString? (point :: before) 0 rest

/-- Reads a string with its quotes. -/
def readText? (text : Text) : Option (Text × Text) := (after? "\"" text).bind (readString? [] 0)

/-! ## Values -/

mutual

def readValue? : (fuel : Nat) → Text → Option (Value × Text)
  | 0, _ => none
  | fuel + 1, text =>
    let text := afterBlanks text
    match after? "[" text, after? "\x7b" text with
    | some rest, _ =>
      match after? "]" (afterBlanks rest) with
      | some rest => some (.list [], rest)
      | none => readItems? [] fuel rest
    | none, some rest =>
      match after? "\x7d" (afterBlanks rest) with
      | some rest => some (.dict [], rest)
      | none => readMembers? [] fuel rest
    | none, none =>
      ((readText? text).map fun (content, rest) => (.text content, rest))
        <|> readWord? text <|> readNumber? text

/-- Reads the items of an array up to and over its bracket; those before are given last first. -/
def readItems? (before : List Value) : (fuel : Nat) → Text → Option (Value × Text)
  | 0, _ => none
  | fuel + 1, text =>
    match readValue? fuel text with
    | none => none
    | some (item, rest) =>
      let rest := afterBlanks rest
      match after? "," rest with
      | some rest => readItems? (item :: before) fuel rest
      | none => (after? "]" rest).map fun rest => (.list (item :: before).reverse, rest)

/-- Reads the members of an object up to and over its brace; those before are given last first. -/
def readMembers? (before : List (Value × Value)) : (fuel : Nat) → Text → Option (Value × Text)
  | 0, _ => none
  | fuel + 1, text =>
    match readText? (afterBlanks text) with
    | none => none
    | some (name, rest) =>
      match (after? ":" (afterBlanks rest)).bind (readValue? fuel) with
      | none => none
      | some (item, rest) =>
        let members := (Value.text name, item) :: before
        let rest := afterBlanks rest
        match after? "," rest with
        | some rest => readMembers? members fuel rest
        | none => (after? "\x7d" rest).map fun rest => (.dictOf members.reverse, rest)

end

/--
Reads the value at the start of a text. A value inside another is as many steps further in as there
are code points around it at most, so that the steps suffice.
-/
def read? (text : Text) : Option (Value × Text) := readValue? (text.length + 1) text

end Json

end IndexWire
