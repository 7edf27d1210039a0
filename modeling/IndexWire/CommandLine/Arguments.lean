import IndexWire.Text.CodePoint

/-!
# Arguments

How the arguments of a command divide into options and positionals. An option has a long name after
two dashes, and may have a letter after one; its value follows after an equals sign or directly
after the letter, or is the next argument, whatever that is. Two dashes alone end the options.
-/

namespace IndexWire

namespace CommandLine

/-- An option that a command knows; `κ` is what options stand for. -/
structure Declaration (κ : Type) where
  key : κ
  /-- The long name, with its dashes. -/
  name : String
  /-- The letter. -/
  letter : Option Char := none
  takesValue : Bool

/-- Options with their values, and positionals. -/
structure Arguments (κ : Type) where
  options : List (κ × Option Text) := []
  positionals : List Text := []

namespace Arguments

/-- An option that has been read, or one that waits for the next argument as its value. -/
structure Reading (κ : Type) where
  options : List (κ × Option Text) := []
  /-- What the option stands for whose value is the next argument. -/
  waiting : Option κ := none

/-- The part of a text before the first equals sign, and the part after it. -/
def splitEquals (text : Text) : Text × Option Text :=
  match text.dropWhile (!·.is '=') with
  | [] => (text, none)
  | _ :: rest => (text.takeWhile (!·.is '='), some rest)

/-- Reads the letters after a single dash; what follows the letter of a value is the value. -/
def readLetters {κ : Type} (declarations : List (Declaration κ)) : Text → Option (Reading κ)
  | [] => some {}
  | point :: rest =>
    match declarations.find? fun declaration => declaration.letter.any point.is with
    | none => none
    | some declaration =>
      if declaration.takesValue then
        if rest.isEmpty then some { waiting := some declaration.key }
        else some { options := [(declaration.key, some rest)] }
      else
        (readLetters declarations rest).map fun reading =>
          { reading with options := (declaration.key, none) :: reading.options }

/-- Reads an argument that starts with a dash. -/
def readOption {κ : Type} (declarations : List (Declaration κ)) (argument : Text) :
    Option (Reading κ) :=
  let (name, value) := splitEquals argument
  match declarations.find? fun declaration => name.is declaration.name with
  | some declaration =>
    match declaration.takesValue, value with
    | true, none => some { waiting := some declaration.key }
    | true, some value => some { options := [(declaration.key, some value)] }
    | false, none => some { options := [(declaration.key, none)] }
    | false, some _ => none
  | none =>
    if Text.is (argument.take 2) "--" then none else readLetters declarations (argument.drop 1)

def withOptions {κ : Type} (options : List (κ × Option Text)) (arguments : Arguments κ) :
    Arguments κ :=
  { arguments with options := options ++ arguments.options }

def withPositional {κ : Type} (positional : Text) (arguments : Arguments κ) : Arguments κ :=
  { arguments with positionals := positional :: arguments.positionals }

/--
Reads arguments. Where options may not be `mixed` with positionals, everything from the first
positional on is positional. There are none if an option is not known or has no value.
-/
def read {κ : Type} (declarations : List (Declaration κ)) (mixed : Bool) :
    List Text → Option (Arguments κ)
  | [] => some {}
  | argument :: rest =>
    if argument.is "--" then some { positionals := rest }
    else if Text.is (argument.take 1) "-" && 1 < argument.length then
      match readOption declarations argument with
      | none => none
      | some reading =>
        match reading.waiting with
        | none => (read declarations mixed rest).map (withOptions reading.options)
        | some key =>
          match rest with
          | [] => none
          | value :: later =>
            (read declarations mixed later).map
              (withOptions (reading.options ++ [(key, some value)]))
    else if mixed then (read declarations mixed rest).map (withPositional argument)
    else some { positionals := argument :: rest }

/-- The value of an option where it is last given. -/
def value? {κ : Type} [DecidableEq κ] (arguments : Arguments κ) (key : κ) : Option Text :=
  (arguments.options.reverse.find? fun option => option.1 = key).bind Prod.snd

/-- What the given options stand for, each once, in the order in which they are first given. -/
def keys {κ : Type} [DecidableEq κ] (arguments : Arguments κ) : List κ :=
  (arguments.options.map Prod.fst).foldl
    (fun kept key => if kept.contains key then kept else kept ++ [key]) []

end Arguments

end CommandLine

end IndexWire
