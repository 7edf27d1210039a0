import IndexWire.Directory.Path

/-!
# Directories

Everything below a top folder: files with their bytes, and folders. Each is kept under its
location, the sequence of names that leads to it from the top; `locate` finds the location of a
path, which may start at the top or at the current folder. Opening a file gives its location, which
stays good because nothing is ever removed or renamed.
-/

namespace IndexWire

inductive Entry where
  | file (content : Bytes)
  | folder
deriving DecidableEq

/-- The names that lead from the top of a directory to an entry. -/
abbrev Location := List Text

/-- Files and folders, and the folder from which paths start. -/
structure Directory where
  /-- The entries in the order in which they were made, each under its location. -/
  entries : List (Location × Entry) := []
  /-- The current folder. -/
  current : Location := []
deriving DecidableEq

namespace Directory

/-- The longest name of an entry, in bytes. -/
def nameLimit : Nat := 255

/-- The shortest text that is too long for a path, in bytes. -/
def pathLimit : Nat := 4096

/-- What stands at a location; the current folder and those above it are folders. -/
def entry? (directory : Directory) (location : Location) : Option Entry :=
  if location.isPrefixOf directory.current then some .folder
  else (directory.entries.find? fun entry => entry.1 = location).map Prod.snd

def put (directory : Directory) (location : Location) (entry : Entry) : Directory :=
  { directory with
    entries := putEntry (fun left right => left = right) directory.entries location entry }

/-- The bytes of the file at a location; nothing where there is no file. -/
def content (directory : Directory) (location : Location) : Bytes :=
  match directory.entry? location with
  | some (.file content) => content
  | _ => []

/-- Follows names from a location. Only the last one may lead to nothing. -/
def walk (directory : Directory) (here : Location) : List Text → Except PathFault Location
  | [] => .ok here
  | name :: rest =>
    match directory.entry? here with
    | none => .error .missing
    | some (.file _) => .error .notFolder
    | some .folder =>
      if name = Text.ofString ".." then directory.walk here.dropLast rest
      else if Path.byteCount name > nameLimit then .error .tooLong
      else directory.walk (here ++ [name]) rest

def start (directory : Directory) (path : Path) : Location :=
  if path.isAbsolute then [] else directory.current

def locate (directory : Directory) (path : Path) : Except Fault Location := do
  let text := path.text
  Path.check text
  if Path.byteCount text ≥ pathLimit then throw (.path .tooLong text)
  match directory.walk (directory.start path) path.names with
  | .ok location => pure location
  | .error cause => throw (.path cause text)

/-- The location and the entry of a path that leads to something. -/
def find (directory : Directory) (path : Path) : Except Fault (Location × Entry) := do
  let location ← directory.locate path
  match directory.entry? location with
  | some entry => pure (location, entry)
  | none => throw (.path .missing path.text)

/--
What a path leads to, if it leads to anything. A path that cannot be used leads to nothing, unless a
name in it is too long.
-/
def look (directory : Directory) (path : Path) : Except Fault (Option (Location × Entry)) :=
  match directory.find path with
  | .ok found => .ok (some found)
  | .error (.path .tooLong text) => .error (.path .tooLong text)
  | .error _ => .ok none

/-- Opens a file for writing at its end; a file that is missing is made. -/
def openAppend (directory : Directory) (path : Path) : Except Fault (Location × Directory) := do
  let location ← directory.locate path
  match directory.entry? location with
  | some .folder => throw (.path .isFolder path.text)
  | some (.file _) => pure (location, directory)
  | none => pure (location, directory.put location (.file []))

/--
Opens a file for writing from its start; its content is dropped, and a file that is missing is made.
-/
def openTruncate (directory : Directory) (path : Path) : Except Fault (Location × Directory) := do
  let location ← directory.locate path
  match directory.entry? location with
  | some .folder => throw (.path .isFolder path.text)
  | _ => pure (location, directory.put location (.file []))

/-- The directory with bytes added at the end of the file at a location. -/
def append (directory : Directory) (location : Location) (bytes : Bytes) : Directory :=
  directory.put location (.file (directory.content location ++ bytes))

/-- The directory with bytes put over those of the file at a location, from a position on. -/
def overwrite (directory : Directory) (location : Location) (position : Nat) (bytes : Bytes) :
    Directory :=
  directory.put location
    (.file ((directory.content location).splice position (position + bytes.length : Nat) bytes))

/-- Makes a folder in a folder that is there. -/
def makeFolder (directory : Directory) (path : Path) : Except Fault Directory := do
  let location ← directory.locate path
  match directory.entry? location with
  | some _ => throw (.path .alreadyThere path.text)
  | none => pure (directory.put location .folder)

def isFolder (directory : Directory) (path : Path) : Bool :=
  match directory.find path with
  | .ok (_, .folder) => true
  | _ => false

/--
Makes a folder and whatever folders it needs above it; a folder that is there already is left as it
is. On failure the folders made on the way stay.
-/
def makeFolders (directory : Directory) (path : Path) : Directory × Option Fault :=
  go directory path path.names.length
where
  /-- Makes the folder of a path; `depth` bounds how many folders above it are made. -/
  go (directory : Directory) (path : Path) : Nat → Directory × Option Fault
    | 0 => once directory path
    | depth + 1 =>
      match directory.makeFolder path with
      | .ok made => (made, none)
      | .error (.path .missing text) =>
        if path.parent = path then (directory, some (.path .missing text))
        else
          match go directory path.parent depth with
          | (made, some fault) => (made, some fault)
          | (made, none) => once made path
      | .error fault => settle directory path fault
  /-- Makes the folder of a path in a folder that is there. -/
  once (directory : Directory) (path : Path) : Directory × Option Fault :=
    match directory.makeFolder path with
    | .ok made => (made, none)
    | .error fault => settle directory path fault
  /-- A fault of the directory is none where the folder is there. -/
  settle (directory : Directory) (path : Path) (fault : Fault) : Directory × Option Fault :=
    if fault.category = .system && directory.isFolder path then (directory, none)
    else (directory, some fault)

/-- The path from the top to what a path would lead to if none of its names were a link. -/
def absolute (directory : Directory) (path : Path) : Path where
  isAbsolute := true
  names := Path.normalizedNames (directory.start path ++ path.names)
  isDoubled := path.isDoubled

/-- The path of a location from a folder, if it is below the folder. -/
def pathFrom? (folder location : Location) : Option Path :=
  if folder.isPrefixOf location then
    some { isAbsolute := false, names := location.drop folder.length }
  else none

/--
A path without double dots: from the current folder if it leads below it, or else from the top.
-/
def settle (directory : Directory) (path : Path) : Path :=
  let absolute := directory.absolute path
  (pathFrom? directory.current absolute.names).getD absolute

/-- The directory with an entry at a path and folders above it, whatever was there. -/
def place (directory : Directory) (path : Path) (entry : Entry) : Directory :=
  let location := (directory.absolute path).names
  let folders := (List.range location.length).map location.take
  (folders.foldl (fun made folder =>
    if (made.entry? folder).isSome then made else made.put folder .folder) directory).put
    location entry

/-- All files below the current folder with their paths, in the order in which they were made. -/
def files (directory : Directory) : List (Text × Bytes) :=
  directory.entries.filterMap fun (location, entry) =>
    match entry with
    | .file content =>
      (pathFrom? directory.current location).map fun path => (path.text, content)
    | .folder => none

end Directory

end IndexWire
