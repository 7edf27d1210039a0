import IndexWire.Text.Utf8
import IndexWire.Value.Literal

/-!
# Faults

Every reason for which a call of this library fails, with the wording of each in `message`. The
causes fall into categories; a caller that recovers from a whole family of faults asks for
`category`.
-/

namespace IndexWire

/-- What is wrong with a path, as the directory reports it. -/
inductive PathFault where
  | missing
  | alreadyThere
  | notFolder
  | isFolder
  /-- A name in the path is longer than a directory can hold. -/
  | tooLong
deriving DecidableEq

namespace PathFault

def number : PathFault → Nat
  | missing => 2
  | alreadyThere => 17
  | notFolder => 20
  | isFolder => 21
  | tooLong => 36

def wording : PathFault → String
  | missing => "No such file or directory"
  | alreadyThere => "File exists"
  | notFolder => "Not a directory"
  | isFolder => "Is a directory"
  | tooLong => "File name too long"

end PathFault

/-- What is wrong with a date that has the right form. -/
inductive DateFault where
  /-- The year is zero. -/
  | year
  | month
  | day
  | hour
  | minute
  | second
  /-- The offset, in seconds, is a day or more. -/
  | offset (seconds : Int)
deriving DecidableEq

inductive Fault where
  /-- An integer is neither a signed nor an unsigned number of a width. -/
  | outOfWidth (value : Int) (width : Nat)
  /-- An integer is negative or has more than 63 bits. -/
  | outOfLong (value : Int)
  /-- A range of bytes to write is not inside the byte string. -/
  | rangeOutside (offset length : Int) (size : Nat)
  | notText (kind : Kind)
  | entryNotText (key value : Kind)
  | elementNotText (kind : Kind)
  /-- A value has no elements in any order. -/
  | noElements (kind : Kind)
  /-- A text holds surrogates that are refused; these are the first ones. -/
  | unencodable (run : Text.Run)
  /-- No surrogate policy has the name, which is given as a literal. -/
  | unknownPolicy (literal : Text)
  | negativeCount (count : Int)
  | regionFull
  | regionTooSmall (requested left : Nat)
  | regionOutside (offset length : Int) (size : Nat)
  | cursorOutside (offset : Int) (start stop : Nat)
  /-- A byte is put beyond the end of a buffer. -/
  | beyondBuffer
  /-- A byte is taken from before the start of a view. -/
  | beyondView
  /-- A byte is taken at a position of more than 64 bits. -/
  | positionTooLarge
  /-- The size of a buffer would change while it is viewed. -/
  | pinned
  /-- The items of a view do not stand one after another. -/
  | notPacked
  | closed
  | startOutside (offset : Int) (size : Nat)
  | pastEnd
  | tooFewLeft (wanted left : Int)
  | streamEnded (filled length : Nat)
  /-- Bytes do not fit the part of a range that they are meant for. -/
  | sizesDiffer
  /-- A device reports a fault of its own. -/
  | device (name message : Text)
  /-- Bytes are not the encoding of a text. -/
  | undecodable (malformed : Utf8.Malformed)
  | malformedDocument
  /-- A text in a settings document asks for a code point that there is not. -/
  | noCodePoint
  /-- A text in a settings document asks for a code point by a number of more than 31 bits. -/
  | numberTooWide
  | notMapping (place : Text) (kind : String)
  /-- A number in a settings document has no digits. -/
  | noDigits (base : Nat)
  /-- A number in a settings document is beyond double precision. -/
  | numberTooLarge
  | badDate (cause : DateFault)
  | nullInPath
  | variableNotText (kind : Kind)
  /-- The name of a variable of the environment holds an equals sign. -/
  | badVariableName
  | noVariableName
  | noHome
  | path (cause : PathFault) (place : Text)
  | unknownSetting (name : Text)
  | notPath (kind : Kind)
  /-- A value that can change is to be the key of something. -/
  | notKey (kind : Kind)
  /-- A view of bytes that can change is to be the key of something. -/
  | viewNotKey
  /-- Something that is no byte string is asked for its length. -/
  | noLength (owner : String)
  /-- Something that is no byte string is asked for its bytes. -/
  | noBytes (owner : String)
  /-- Something that has no items is to get new ones. -/
  | itemsFixed (owner : String)
  | noAttribute (owner : String) (name : Text)
  /-- No log formatter has the name, which is given as a literal. -/
  | unknownFormatter (literal : Text)
  /-- No log destination has the name, which is given as a literal. -/
  | unknownDestination (literal : Text)
  /-- Two values of kinds that have no order are compared. -/
  | notComparable (operator : String) (left right : Kind)
  /-- An operator is used on values of kinds that it does not take. -/
  | noOperation (operator : String) (left right : Kind)
  | attributeNotText (kind : Kind)
  | argumentNotText
  | loggerNameNotText
  /-- Something is looked up, given as a literal, that is not listed. -/
  | notListed (literal : Text)
  /-- A log level is a text that names none. -/
  | unknownLevel (name : Text)
  /-- A log level names the styles of message templates. -/
  | levelNotNumber
  | argumentTwice (call : String) (name : Text)
  /-- A call that takes nothing but the object it is made on is given more. -/
  | argumentsNotTaken (call : String) (count : Nat)
  | malformedEntry (entry : Text)
  | notFile (place : Text)
  /-- The destination of a copy that would be truncated is its source. -/
  | sameFile (place : Text)
  | skipOutside (skip : Int) (place : Text) (size : Nat)
deriving DecidableEq

namespace Fault

/-- The families of faults that callers tell apart. -/
inductive Category where
  /-- A value of the right kind is not acceptable. -/
  | value
  /-- A value is of the wrong kind. -/
  | kind
  /-- Input or room has run out. -/
  | ended
  /-- A position is outside. -/
  | index
  /-- A key is not there. -/
  | key
  /-- A buffer is in use, or its bytes cannot be taken as they stand. -/
  | pinned
  /-- A path or a device failed. -/
  | system
  /-- A document has no meaning. -/
  | document
  /-- The surroundings lack something. -/
  | surroundings
  /-- A number is beyond what can be held. -/
  | overflow
  /-- Something lacks what is asked of it. -/
  | lacking
deriving DecidableEq

def category : Fault → Category
  | notText _ | entryNotText _ _ | elementNotText _ | noElements _ | levelNotNumber | notPath _
  | notKey _ | argumentTwice _ _ | argumentsNotTaken _ _ | unknownSetting _
  | loggerNameNotText | noLength _ | noBytes _ | itemsFixed _ | variableNotText _
  | notComparable _ _ _ | noOperation _ _ _ | attributeNotText _ | argumentNotText => .kind
  | notListed _ => .key
  | regionFull | regionTooSmall _ _ | pastEnd | tooFewLeft _ _ | streamEnded _ _ => .ended
  | beyondBuffer | beyondView | positionTooLarge => .index
  | pinned | notPacked => .pinned
  | device _ _ | path _ _ | noVariableName => .system
  | malformedDocument => .document
  | noHome => .surroundings
  | numberTooWide | numberTooLarge => .overflow
  | noAttribute _ _ => .lacking
  | _ => .value

/-- The names that were available, between brackets. -/
def available (names : List String) : Text :=
  Text.ofString ". Available: ["
    ++ Text.listed (names.map fun name => Text.quoted (Text.ofString name)) ++ Text.ofString "]"

def unencodableMessage (run : Text.Run) : Text :=
  let lead := Text.ofString "'utf-8' codec can't encode character"
  let place :=
    match run.points with
    | [point] =>
      Text.ofString " '\\u" ++ Text.ofHex 4 point.value ++ Text.ofString "' in position "
        ++ Text.ofNat run.start
    | points =>
      Text.ofString "s in position " ++ Text.ofNat run.start ++ Text.ofString "-"
        ++ Text.ofNat (run.start + points.length - 1)
  lead ++ place ++ Text.ofString ": surrogates not allowed"

def undecodableMessage (malformed : Utf8.Malformed) : Text :=
  let lead := Text.ofString "'utf-8' codec can't decode byte"
  let place :=
    match malformed.bytes with
    | [byte] =>
      Text.ofString " 0x" ++ Text.ofHex 2 byte.toNat ++ Text.ofString " in position "
        ++ Text.ofNat malformed.start
    | bytes =>
      Text.ofString "s in position " ++ Text.ofNat malformed.start ++ Text.ofString "-"
        ++ Text.ofNat (malformed.start + bytes.length - 1)
  let reason :=
    match malformed.reason with
    | .invalidStart => "invalid start byte"
    | .invalidContinuation => "invalid continuation byte"
    | .unexpectedEnd => "unexpected end of data"
  lead ++ place ++ Text.ofString ": " ++ Text.ofString reason

def badDateMessage : DateFault → Text
  | .year => Text.ofString "year 0 is out of range"
  | .month => Text.ofString "month must be in 1..12"
  | .day => Text.ofString "day is out of range for month"
  | .hour => Text.ofString "hour must be in 0..23"
  | .minute => Text.ofString "minute must be in 0..59"
  | .second => Text.ofString "second must be in 0..59"
  | .offset seconds =>
    Text.ofString "offset must be a timedelta strictly between -timedelta(hours=24) and "
      ++ Text.ofString "timedelta(hours=24), not " ++ spanLiteral seconds ++ Text.ofString "."

def templateStyles : Text :=
  Text.ofString "\x7b'%': (<class 'logging.PercentStyle'>, '%(levelname)s:%(name)s:%(message)s'), "
    ++ Text.ofString "'\x7b': (<class 'logging.StrFormatStyle'>, "
    ++ Text.ofString "'\x7blevelname\x7d:\x7bname\x7d:\x7bmessage\x7d'), "
    ++ Text.ofString "'$': (<class 'logging.StringTemplateStyle'>, "
    ++ Text.ofString "'$\x7blevelname\x7d:$\x7bname\x7d:$\x7bmessage\x7d')\x7d"

/-- The wording of a failure with a name of its own; one for a missing key shows it as a literal. -/
def deviceMessage (name message : Text) : Text :=
  if name.is "KeyError" then Text.quoted message else message

def message : Fault → Text
  | outOfWidth value width => Text.ofString s!"{value} does not fit in {width} bits"
  | outOfLong value => Text.ofString s!"write_vlong requires 0 <= v < 2**63, got {value}"
  | rangeOutside offset length size =>
    Text.ofString s!"range offset={offset} length={length} outside buffer of {size} bytes"
  | notText kind => Text.ofString s!"expected str, got {kind.name}"
  | entryNotText key value =>
    Text.ofString s!"string map entries must be str -> str, got {key.name} -> {value.name}"
  | elementNotText kind => Text.ofString s!"string set elements must be str, got {kind.name}"
  | noElements kind => Text.ofString s!"'{kind.name}' object is not iterable"
  | unencodable run => unencodableMessage run
  | unknownPolicy literal =>
    Text.ofString "Unknown surrogate policy: " ++ literal ++ available ["replace", "strict"]
  | negativeCount count => Text.ofString s!"copy_bytes count must be >= 0, got {count}"
  | regionFull => Text.ofString "sink region is full"
  | regionTooSmall requested left =>
    Text.ofString s!"sink region is full: {requested} bytes requested, {left} left"
  | regionOutside offset length size =>
    Text.ofString s!"region offset={offset} length={length} outside buffer of {size} bytes"
  | cursorOutside offset start stop =>
    Text.ofString s!"offset {offset} outside region [{start}, {stop}]"
  | beyondBuffer => Text.ofString "bytearray index out of range"
  | beyondView => Text.ofString "index out of bounds on dimension 1"
  | positionTooLarge => Text.ofString "cannot fit 'int' into an index-sized integer"
  | pinned => Text.ofString "Existing exports of data: object cannot be re-sized"
  | notPacked => Text.ofString "memoryview: underlying buffer is not C-contiguous"
  | closed => Text.ofString "I/O operation on closed file."
  | startOutside offset size => Text.ofString s!"offset {offset} outside source of {size} bytes"
  | pastEnd => Text.ofString "read past end of source"
  | tooFewLeft wanted left =>
    Text.ofString s!"read past end of source: wanted {wanted} bytes, {left} left"
  | streamEnded filled length =>
    Text.ofString s!"stream ended after {filled} of {length} bytes"
  | sizesDiffer =>
    Text.ofString "memoryview assignment: lvalue and rvalue have different structures"
  | device name message => deviceMessage name message
  | undecodable malformed => undecodableMessage malformed
  | malformedDocument => []
  | noCodePoint => Text.ofString "chr() arg not in range(0x110000)"
  | numberTooWide => Text.ofString "Python int too large to convert to C int"
  | notMapping place kind => place ++ Text.ofString s!": expected a mapping, got {kind}"
  | noDigits base => Text.ofString s!"invalid literal for int() with base {base}: ''"
  | numberTooLarge => Text.ofString "int too large to convert to float"
  | badDate cause => badDateMessage cause
  | nullInPath => Text.ofString "embedded null byte"
  | variableNotText kind => Text.ofString s!"str expected, not {kind.name}"
  | badVariableName => Text.ofString "illegal environment variable name"
  | noVariableName => Text.ofString "[Errno 22] Invalid argument"
  | noHome => Text.ofString "Could not determine home directory."
  | path cause place =>
    Text.ofString s!"[Errno {cause.number}] {cause.wording}: " ++ Text.quoted place
  | unknownSetting name =>
    Text.ofString "BytesinkConfig.__init__() got an unexpected keyword argument '" ++ name
      ++ Text.ofString "'"
  | notPath kind =>
    Text.ofString s!"expected str, bytes or os.PathLike object, not {kind.name}"
  | notKey kind => Text.ofString s!"unhashable type: '{kind.name}'"
  | viewNotKey => Text.ofString "cannot hash writable memoryview object"
  | noLength owner => Text.ofString s!"object of type '{owner}' has no len()"
  | noBytes owner =>
    Text.ofString s!"memoryview: a bytes-like object is required, not '{owner}'"
  | itemsFixed owner => Text.ofString s!"'{owner}' object does not support item assignment"
  | noAttribute owner name =>
    Text.ofString s!"'{owner}' object has no attribute '" ++ name ++ Text.ofString "'"
  | unknownFormatter literal =>
    Text.ofString "Unknown log formatter: " ++ literal ++ available ["structlog", "stdlib"]
  | unknownDestination literal =>
    Text.ofString "Unknown log destination: " ++ literal ++ available ["stderr", "jsonl"]
  | notComparable operator left right =>
    Text.ofString s!"'{operator}' not supported between instances of '{left.name}' and "
      ++ Text.ofString s!"'{right.name}'"
  | noOperation operator left right =>
    Text.ofString s!"unsupported operand type(s) for {operator}: '{left.name}' and "
      ++ Text.ofString s!"'{right.name}'"
  | attributeNotText kind =>
    Text.ofString s!"attribute name must be string, not '{kind.name}'"
  | argumentNotText => Text.ofString "keywords must be strings"
  | loggerNameNotText => Text.ofString "A logger name must be a string"
  | notListed literal => literal
  | unknownLevel name => Text.ofString "Unknown level: " ++ Text.quoted name
  | levelNotNumber => Text.ofString "Level not an integer or a valid string: " ++ templateStyles
  | argumentTwice call name =>
    Text.ofString s!"{call} got multiple values for argument '" ++ name ++ Text.ofString "'"
  | argumentsNotTaken call count =>
    Text.ofString s!"{call} takes 1 positional argument but {count + 1} were given"
  | malformedEntry entry => Text.ofString "expected KEY=VALUE, got " ++ Text.quoted entry
  | notFile place => place ++ Text.ofString " is not a file"
  | sameFile place =>
    place ++ Text.ofString " is the source file; truncating it would lose the data (use --append)"
  | skipOutside skip place size =>
    Text.ofString s!"--skip {skip} outside " ++ place ++ Text.ofString s!" ({size} bytes)"

end Fault

end IndexWire
