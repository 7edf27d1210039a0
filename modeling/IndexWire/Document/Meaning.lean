import IndexWire.Document.Node
import IndexWire.Fault

/-!
# What documents mean

The value of a document. A plain scalar is nothing, a truth value, a number, a date or a text,
depending on its form; a quoted one is a text. `read` gives the value of a whole text.
-/

namespace IndexWire

namespace Document

/-- The characters of a text, if all of them are ASCII. -/
def ascii? (text : Text) : Option (List Char) :=
  text.mapM fun point => if point.value < 0x80 then some (Char.ofNat point.value) else none

/-- The characters before the first of a kind, and those after it if there is one. -/
def cut (separator : Char) (characters : List Char) : List Char × Option (List Char) :=
  match characters.span (· != separator) with
  | (before, []) => (before, none)
  | (before, _ :: after) => (before, some after)

def parts (separator : Char) : List Char → List (List Char)
  | [] => [[]]
  | character :: rest =>
    if character = separator then [] :: parts separator rest
    else
      match parts separator rest with
      | [] => [[character]]
      | first :: later => (character :: first) :: later

def digitValue (character : Char) : Nat :=
  if character.isDigit then character.toNat - 0x30 else character.toLower.toNat - 0x61 + 10

/-- The number that digits denote in a base; underscores are skipped. -/
def number (base : Nat) (digits : List Char) : Nat :=
  (digits.filter (· != '_')).foldl (fun high digit => high * base + digitValue digit) 0

/-- A sign, and whether it was minus, before the rest. -/
def sign : List Char → Bool × List Char
  | '-' :: rest => (true, rest)
  | '+' :: rest => (false, rest)
  | rest => (false, rest)

/-- Whether characters are a digit and then digits and underscores. -/
def isGrouped : List Char → Bool
  | [] => false
  | first :: rest => first.isDigit && rest.all fun character => character.isDigit || character = '_'

/-- Whether characters are digits of base sixty, of which there are one or two. -/
def isSixtieth : List Char → Bool
  | [ones] => ones.isDigit
  | [tens, ones] => '0' ≤ tens && tens ≤ '5' && ones.isDigit
  | _ => false

def integer? (characters : List Char) : Option (Except Fault Int) :=
  let (isNegative, digits) := sign characters
  let signed (value : Nat) : Int := if isNegative then -(value : Int) else value
  let based (base : Nat) (allowed : Char → Bool) (digits : List Char) : Option (Except Fault Int) :=
    if digits.isEmpty || !(digits.all fun digit => allowed digit || digit = '_') then none
    else if digits.all (· = '_') then some (.error (.noDigits base))
    else some (.ok (signed (number base digits)))
  let isOctal (digit : Char) : Bool := '0' ≤ digit && digit ≤ '7'
  let isHex (digit : Char) : Bool :=
    digit.isDigit || ('a' ≤ digit && digit ≤ 'f') || ('A' ≤ digit && digit ≤ 'F')
  match digits with
  | '0' :: 'b' :: rest => based 2 (fun digit => digit = '0' || digit = '1') rest
  | '0' :: 'x' :: rest => based 16 isHex rest
  | ['0'] => some (.ok 0)
  | '0' :: rest =>
    if rest.all fun digit => isOctal digit || digit = '_' then some (.ok (signed (number 8 rest)))
    else none
  | _ =>
    match parts ':' digits with
    | [whole] => if isGrouped whole then some (.ok (signed (number 10 whole))) else none
    | whole :: sixtieths =>
      if isGrouped whole && sixtieths.all isSixtieth then
        some (.ok (signed (sixtieths.foldl (fun high part => high * 60 + number 10 part)
          (number 10 whole))))
      else none
    | [] => none

/-- The exponent of a double-precision number: the letter, a sign and digits. -/
def exponent? : List Char → Option Int
  | letter :: mark :: digits =>
    if (letter = 'e' || letter = 'E') && (mark = '+' || mark = '-') && !digits.isEmpty
        && digits.all Char.isDigit then
      some (if mark = '-' then -(number 10 digits : Int) else number 10 digits)
    else none
  | _ => none

/-- The decimal `whole.fraction` times a power of ten. -/
def decimal (isNegative : Bool) (whole fraction : List Char) (exponent : Int) : Binary64 :=
  let places := (fraction.filter (· != '_')).length
  .ofDecimal isNegative (number 10 (whole ++ fraction)) (exponent - places)

/-- The digits after a point and the exponent after them. -/
def fraction? (characters : List Char) : Option (List Char × Int) :=
  let (digits, rest) := characters.span fun character => character.isDigit || character = '_'
  if rest.isEmpty then some (digits, 0) else (exponent? rest).map fun exponent => (digits, exponent)

/--
The double-precision number of numbers in base sixty, last first. Each is multiplied by its power of
sixty and added to the sum of those before it, with a rounding at every step.
-/
def sixtiethsFloat (numbers : List Binary64) : Except Fault Binary64 :=
  numbers.zipIdx.foldlM (fun sum part =>
    match Binary64.ofInt? (Nat.pow 60 part.2) with
    | some power => .ok (sum.add (part.1.mul power))
    | none => .error .numberTooLarge) (.finite false 0 (-1074))

/-- The double-precision number that a plain scalar is. -/
def float? (characters : List Char) : Option (Except Fault Binary64) :=
  let (isNegative, digits) := sign characters
  let isSigned := digits.length < characters.length
  if [".inf".toList, ".Inf".toList, ".INF".toList].contains digits then
    some (.ok (.infinite isNegative))
  else if !isSigned && [".nan".toList, ".NaN".toList, ".NAN".toList].contains digits then
    some (.ok .notANumber)
  else
    match cut '.' digits with
    | (_, none) => none
    | ([], some after) =>
      if isSigned || !(after.head?.any Char.isDigit) then none
      else
        (fraction? after).map fun (fraction, exponent) =>
          .ok (decimal false [] fraction exponent)
    | (before, some after) =>
      match parts ':' before with
      | [whole] =>
        if isGrouped whole then
          (fraction? after).map fun (fraction, exponent) =>
            .ok (decimal isNegative whole fraction exponent)
        else none
      | whole :: sixtieths =>
        if isGrouped whole && sixtieths.all isSixtieth
            && after.all fun character => character.isDigit || character = '_' then
          let numbers :=
            match (whole :: sixtieths).reverse with
            | [] => []
            | last :: others =>
              decimal false last after 0 :: others.map fun part => decimal false part [] 0
          some ((sixtiethsFloat numbers).map (Binary64.withSign isNegative))
        else none
      | [] => none

/-- The day that year, month and day are. -/
def day (year month day : Nat) : Except Fault Date :=
  if year = 0 then .error (.badDate .year)
  else if month = 0 || 12 < month then .error (.badDate .month)
  else if day = 0 || Date.daysIn year month < day then .error (.badDate .day)
  else .ok ⟨year, month, day⟩

/--
The seconds of an offset from universal time; no result where it does not have the form of one.
-/
def offset? (characters : List Char) : Option (Option Int) :=
  match characters with
  | [] => some none
  | ['Z'] => some (some 0)
  | mark :: rest =>
    if mark = '+' || mark = '-' then
      let seconds? : Option Int :=
        match parts ':' rest with
        | [hours] =>
          if (hours.length = 1 || hours.length = 2) && hours.all Char.isDigit then
            some (number 10 hours * 3600 : Nat)
          else none
        | [hours, minutes] =>
          if (hours.length = 1 || hours.length = 2) && hours.all Char.isDigit && minutes.length = 2
              && minutes.all Char.isDigit then
            some (number 10 hours * 3600 + number 10 minutes * 60 : Nat)
          else none
        | _ => none
      seconds?.map fun seconds => some (if mark = '-' then -seconds else seconds)
    else none

/--
The moment of a day that a time is. An offset of a day or more is found first, then a bad day.
-/
def moment (date : Except Fault Date) (hour minute second microsecond : Nat) (offset : Option Int) :
    Except Fault Value := do
  if offset.any fun seconds => 86400 ≤ seconds.natAbs then
    throw (.badDate (.offset (offset.getD 0)))
  let date ← date
  if 23 < hour then throw (.badDate .hour)
  if 59 < minute then throw (.badDate .minute)
  if 59 < second then throw (.badDate .second)
  return .moment ⟨date, hour, minute, second, microsecond, offset⟩

/-- The part of a plain scalar after the day, as a moment of the day. -/
def time? (date : Except Fault Date) (characters : List Char) : Option (Except Fault Value) := do
  let isBlank (character : Char) : Bool := character = ' ' || character = '\t'
  let start ←
    match characters with
    | mark :: rest =>
      if mark = 'T' || mark = 't' then some rest
      else if isBlank mark then some (rest.dropWhile isBlank)
      else none
    | [] => none
  let (hour, rest) := start.span Char.isDigit
  let (minute, rest) ←
    match rest with
    | ':' :: tens :: ones :: ':' :: rest => some ([tens, ones], rest)
    | _ => none
  let (second, rest) := rest.span Char.isDigit
  if !((hour.length = 1 || hour.length = 2) && minute.all Char.isDigit && second.length = 2) then
    none
  let (fraction, rest) :=
    match rest with
    | '.' :: rest => rest.span Char.isDigit
    | rest => ([], rest)
  let offset ←
    match rest.dropWhile isBlank with
    | [] => if rest.isEmpty then some none else none
    | zone => offset? zone
  let microsecond := number 10 ((fraction ++ "000000".toList).take 6)
  return moment date (number 10 hour) (number 10 minute) (number 10 second) microsecond offset

/-- The date that a plain scalar is. -/
def date? (characters : List Char) : Option (Except Fault Value) :=
  let (year, rest) := characters.span Char.isDigit
  match rest with
  | '-' :: rest =>
    let (month, rest) := rest.span Char.isDigit
    match rest with
    | '-' :: rest =>
      let (dayDigits, rest) := rest.span Char.isDigit
      let found := day (number 10 year) (number 10 month) (number 10 dayDigits)
      let isShort (digits : List Char) : Bool := digits.length = 1 || digits.length = 2
      if year.length ≠ 4 || !isShort month || !isShort dayDigits then none
      else if rest.isEmpty then
        if month.length = 2 && dayDigits.length = 2 then some (found.map Value.date) else none
      else time? found rest
    | _ => none
  | _ => none

def truth? (characters : List Char) : Option Bool :=
  let affirmative := ["yes", "Yes", "YES", "true", "True", "TRUE", "on", "On", "ON"]
  if affirmative.any (·.toList = characters) then
    some true
  else if ["no", "No", "NO", "false", "False", "FALSE", "off", "Off", "OFF"].any
      (·.toList = characters) then
    some false
  else none

def isNothing (characters : List Char) : Bool :=
  ["", "~", "null", "Null", "NULL"].any (·.toList = characters)

def plainValue (content : Text) : Except Fault Value :=
  match ascii? content with
  | none => .ok (.text content)
  | some characters =>
    match truth? characters, float? characters, integer? characters, date? characters with
    | some truth, _, _, _ => .ok (.bool truth)
    | _, some found, _, _ => found.map Value.float
    | _, _, some found, _ => found.map Value.int
    | _, _, _, some found => found
    | _, _, _, _ =>
      if isNothing characters then .ok .none
      else if characters = ['='] || characters = ['<', '<'] then .error .malformedDocument
      else .ok (.text content)

def scalarValue (content : Text) (isPlain : Bool) : Except Fault Value :=
  if isPlain then plainValue content else .ok (.text content)

/-- The value of a scalar that is a key; here a plain equals sign is a text. -/
def keyValue (content : Text) (isPlain : Bool) : Except Fault Value :=
  if content.is "=" then .ok (.text content) else scalarValue content isPlain

namespace Node

/-- Whether a node is the plain key under which a mapping takes over the pairs of others. -/
def isMerge : Node → Bool
  | scalar content true => content.is "<<"
  | _ => false

def pairs? : Node → Option (List (Node × Node))
  | mapping pairs => some pairs
  | _ => none

/-- The pairs that can be taken over from a node: those of a mapping, or of mappings, last first. -/
def taken? : Node → Option (List (Node × Node))
  | sequence items => (items.mapM pairs?).map fun (found : List _) => found.reverse.flatten
  | other => other.pairs?

mutual

/--
The node with the pairs that its mappings take over put before their own pairs. Where nothing can be
taken over, the key that asks for it stays.
-/
def resolve : Node → Node
  | scalar content isPlain => scalar content isPlain
  | sequence items => sequence (resolveAll items)
  | mapping pairs =>
    let (taken, own) := resolvePairs pairs
    mapping (taken ++ own)

def resolveAll : List Node → List Node
  | [] => []
  | item :: rest => resolve item :: resolveAll rest

/-- The pairs that are taken over, and the own ones, all resolved. -/
def resolvePairs : List (Node × Node) → List (Node × Node) × List (Node × Node)
  | [] => ([], [])
  | (key, value) :: rest =>
    let (taken, own) := resolvePairs rest
    let value := resolve value
    match key.isMerge, value.taken? with
    | true, some found => (found ++ taken, own)
    | _, _ => (taken, (resolve key, value) :: own)

end

/-- The fault of a scalar; that of a collection is found later. -/
def scalarFault? : Node → Option Fault
  | scalar content isPlain =>
    match scalarValue content isPlain with
    | .error fault => some fault
    | .ok _ => none
  | _ => none

/-- The fault of a key, which is no collection. -/
def keyFault? : Node → Option Fault
  | scalar content isPlain =>
    match keyValue content isPlain with
    | .error fault => some fault
    | .ok _ => none
  | _ => some .malformedDocument

/-- The first fault of a collection and the scalars in it. -/
def ownFault? : Node → Option Fault
  | scalar _ _ => none
  | sequence items => items.findSome? scalarFault?
  | mapping pairs =>
    if pairs.any fun pair => pair.1.isMerge then some .malformedDocument
    else pairs.findSome? fun pair => (keyFault? pair.1).or (scalarFault? pair.2)

/-- The nodes in a collection that may be collections. -/
def children : Node → List Node
  | scalar _ _ => []
  | sequence items => items
  | mapping pairs => pairs.map Prod.snd

/-- The first fault of collections that are equally deep, or else of those one step deeper. -/
def levelFault? : (depth : Nat) → List Node → Option Fault
  | 0, _ => none
  | depth + 1, nodes =>
    (nodes.findSome? ownFault?).or (levelFault? depth (nodes.flatMap children))

mutual

/-- How many collections stand inside one another. -/
def depth : Node → Nat
  | scalar _ _ => 0
  | sequence items => depthAll items + 1
  | mapping pairs => depthPairs pairs + 1

def depthAll : List Node → Nat
  | [] => 0
  | item :: rest => max (depth item) (depthAll rest)

/-- The greatest depth of the values of pairs. -/
def depthPairs : List (Node × Node) → Nat
  | [] => 0
  | (_, value) :: rest => max (depth value) (depthPairs rest)

end

/-- The first fault of a resolved node. A collection is looked at after all that are less deep. -/
def fault? (node : Node) : Option Fault :=
  (scalarFault? node).or (levelFault? node.depth [node])

mutual

def value : Node → Value
  | scalar content isPlain => (scalarValue content isPlain).toOption.getD .none
  | sequence items => .list (values items)
  | mapping pairs => .dictOf (pairValues pairs)

def values : List Node → List Value
  | [] => []
  | item :: rest => value item :: values rest

/-- The values of the keys and the values of pairs. -/
def pairValues : List (Node × Node) → List (Value × Value)
  | [] => []
  | (scalar content isPlain, item) :: rest =>
    ((keyValue content isPlain).toOption.getD .none, value item) :: pairValues rest
  | (_, _) :: rest => pairValues rest

end

end Node

/-- The fault of a text that is no document. -/
def Error.fault : Error → Fault
  | .malformed => .malformedDocument
  | .noCodePoint => .noCodePoint
  | .numberTooWide => .numberTooWide

/-- The value of a text that is a document; an empty one is nothing. -/
def read (text : Text) : Except Fault Value := do
  let (tokens, failure) := Token.ofText text
  match ← (Node.ofTokens tokens failure).mapError Error.fault with
  | none => return .none
  | some node =>
    let node := node.resolve
    match node.fault? with
    | some fault => throw fault
    | none => return node.value

/-- A text with every line break written as a line feed. -/
def withLineFeeds : Text → Text
  | [] => []
  | first :: rest =>
    if first.is '\r' then
      match rest with
      | [] => [.ofChar '\n']
      | second :: later =>
        if second.is '\n' then second :: withLineFeeds later
        else .ofChar '\n' :: withLineFeeds (second :: later)
    else first :: withLineFeeds rest

end Document

end IndexWire
