import IndexWire.Fault

/-!
# Paths

Paths as sequences of names. Empty names and single dots vanish when a path is read; double dots
stay, because what they mean depends on the directory. Exactly two slashes at the start stay in the
text of a path, and mean the same as one.
-/

namespace IndexWire

/-- A path of names, from the current folder or from the root. -/
structure Path where
  isAbsolute : Bool
  names : List Text
  /-- Whether the path starts with two slashes. -/
  isDoubled : Bool := false
deriving DecidableEq

namespace Path

def splitSlashes : Text → List Text
  | [] => [[]]
  | point :: rest =>
    if point.is '/' then [] :: splitSlashes rest
    else
      match splitSlashes rest with
      | [] => [[point]]
      | first :: later => (point :: first) :: later

def ofText (text : Text) : Path where
  isAbsolute := (text.head?.map (·.is '/')).getD false
  names := (splitSlashes text).filter fun name => !name.isEmpty && name != Text.ofString "."
  isDoubled := (text.takeWhile (·.is '/')).length = 2

def root : Path := { isAbsolute := true, names := [] }

/-- The text of a path; the current folder is a single dot. -/
def text (path : Path) : Text :=
  let body := Text.joinWith (Text.ofString "/") path.names
  if path.isAbsolute then Text.ofString (if path.isDoubled then "//" else "/") ++ body
  else if path.names.isEmpty then Text.ofString "."
  else body

/-- The folder that holds what a path names. -/
def parent (path : Path) : Path := { path with names := path.names.dropLast }

def child (path : Path) (name : Text) : Path := { path with names := path.names ++ [name] }

/-- The names of a path with each double dot taken together with the name before it. -/
def normalizedNames (names : List Text) : List Text :=
  (names.foldl (fun kept name =>
    if name = Text.ofString ".." then kept.drop 1 else name :: kept) []).reverse

/-- The surrogates of a path that stand for no byte, from the first of their run to its end. -/
def unencodable? (text : Text) : Option Text.Run :=
  go 0 (Text.stretches text)
where
  /-- Looks at the stretches after `start` code points. -/
  go (start : Nat) : List Text.Stretch → Option Text.Run
    | [] => none
    | stretch :: later =>
      let bytes :=
        stretch.points.takeWhile fun point => 0xDC80 ≤ point.value && point.value ≤ 0xDCFF
      if stretch.isRun && bytes.length < stretch.points.length then
        some ⟨start + bytes.length, stretch.points.drop bytes.length⟩
      else go (start + stretch.points.length) later

/-- Refuses a text with surrogates that stand for no byte. -/
def checkSurrogates (text : Text) : Except Fault Unit :=
  (unencodable? text).elim (.ok ()) fun run => .error (.unencodable run)

def checkNulls (text : Text) : Except Fault Unit :=
  if text.any (·.value = 0) then .error .nullInPath else .ok ()

/-- Refuses a text that no directory takes as a path, and no environment as a value. -/
def check (text : Text) : Except Fault Unit := do
  checkSurrogates text
  checkNulls text

/-- The number of bytes that a text in a path takes. -/
def byteCount (text : Text) : Nat :=
  let sizes := text.map fun point =>
    if point.isSurrogate then 1 else (Utf8.encodePoint point).length
  sizes.foldl (· + ·) 0

end Path

end IndexWire
