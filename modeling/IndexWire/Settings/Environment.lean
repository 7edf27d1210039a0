import IndexWire.Directory.Path

/-!
# The environment

What a program is given by its surroundings: variables with their values, and the home folders for
which a tilde stands at the start of a path. The home folder of the own account is what a variable
says at the moment; the one from the start of the program is remembered.
-/

namespace IndexWire

structure Environment where
  entries : List (Text × Text) := []
  /-- The home folder at the start of the program. -/
  startHome : Option Path := none
  /-- The home folders of the known accounts by name; that of the own one has the empty name. -/
  accounts : List (Text × Path) := []

namespace Environment

def get? (environment : Environment) (name : Text) : Option Text :=
  (environment.entries.find? fun entry => entry.1 = name).map Prod.snd

/-- The environment with a variable set or, without a value, removed. -/
def set (environment : Environment) (name : Text) (value : Option Text) : Environment :=
  { environment with
    entries :=
      match value with
      | some value => putEntry (fun left right => left = right) environment.entries name value
      | none => environment.entries.filter fun entry => entry.1 ≠ name }

/--
The environment after a program has set a variable, which has to have a text, or has removed it. A
name is not empty and holds no equals sign.
-/
def assign (environment : Environment) (name : Text) (value : Value) :
    Except Fault Environment := do
  Path.checkSurrogates name
  match value with
  | .none => return environment.set name none
  | .text content =>
    Path.checkSurrogates content
    Path.checkNulls name
    Path.checkNulls content
    if name.any (·.is '=') then throw .badVariableName
    if name.isEmpty then throw .noVariableName
    return environment.set name (some content)
  | other => throw (.variableNotText other.kind)

/-- The variable that tells the home folder of the own account. -/
def homeName : Text := Text.ofString "HOME"

/-- The home folder of an account; that of the own one is what the variable says, if it is set. -/
def home? (environment : Environment) (account : Text) : Option Path :=
  match account, environment.get? homeName with
  | [], some [] => some .root
  | [], some (first :: rest) => if first.is '~' then none else some (.ofText (first :: rest))
  | _, _ => (environment.accounts.find? fun entry => entry.1 = account).map Prod.snd

/-- The path with a tilde and the name of an account at its start replaced by the home folder. -/
def expandHome (environment : Environment) (path : Path) : Except Fault Path :=
  match path.isAbsolute, path.names with
  | false, (first :: account) :: rest =>
    if first.is '~' then
      match environment.home? account with
      | some home => .ok { home with names := home.names ++ rest }
      | none => .error .noHome
    else .ok path
  | _, _ => .ok path

end Environment

end IndexWire
