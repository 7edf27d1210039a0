import IndexWire.Text.CodePoint

/-!
# Surrogates in text

How text that holds surrogates becomes text without them. `stretches` cuts a text at the borders of
its maximal runs of surrogates; under the policy `replace` each run is paired up from its start, and
under `strict` the first run is the reason to refuse the text. `repair` is the same replacement in
one scan that knows nothing of runs.
-/

namespace IndexWire

/-- What is done with surrogates when text is encoded. -/
inductive SurrogatePolicy where
  /-- A high surrogate before a low one is joined with it; any other becomes U+FFFD. -/
  | replace
  /-- Text that holds a surrogate is refused. -/
  | strict
deriving DecidableEq

namespace SurrogatePolicy

def name : SurrogatePolicy → Text
  | replace => Text.ofString "replace"
  | strict => Text.ofString "strict"

def ofName? (name : Text) : Option SurrogatePolicy :=
  if name = replace.name then some replace
  else if name = strict.name then some strict
  else none

end SurrogatePolicy

namespace Text

/-- A part of a text in which every code point is a surrogate, or none is. -/
structure Stretch where
  /-- Whether the part consists of surrogates. -/
  isRun : Bool
  points : Text
deriving DecidableEq

/-- The text cut wherever a surrogate stands beside a code point that is none. -/
def stretches : Text → List Stretch
  | [] => []
  | point :: rest =>
    match stretches rest with
    | [] => [⟨point.isSurrogate, [point]⟩]
    | first :: later =>
      if first.isRun = point.isSurrogate then ⟨first.isRun, point :: first.points⟩ :: later
      else ⟨point.isSurrogate, [point]⟩ :: first :: later

/--
Inside a run of surrogates: each high one joined with a low one that follows, all others replaced.
-/
def pairUp : Text → Text
  | [] => []
  | [_] => [.replacement]
  | first :: second :: rest =>
    if first.isHigh && second.isLow then .join first second :: pairUp rest
    else .replacement :: pairUp (second :: rest)

/-- The text that is encoded under the policy `replace`: every run of surrogates is paired up. -/
def withoutSurrogates (text : Text) : Text :=
  (stretches text).flatMap fun stretch =>
    if stretch.isRun then pairUp stretch.points else stretch.points

/-- One scan over a whole text that joins pairs of surrogates and replaces every other surrogate. -/
def repair : Text → Text
  | [] => []
  | [point] => [if point.isSurrogate then .replacement else point]
  | first :: second :: rest =>
    if first.isHigh && second.isLow then .join first second :: repair rest
    else (if first.isSurrogate then .replacement else first) :: repair (second :: rest)

/-- A maximal run of surrogates and the index at which it starts. -/
structure Run where
  /-- How many code points stand before the run. -/
  start : Nat
  points : Text
deriving DecidableEq

/-- The first maximal run of surrogates, if a text holds any. -/
def firstRun? (text : Text) : Option Run :=
  match stretches text with
  | [] => none
  | first :: later =>
    if first.isRun then some ⟨0, first.points⟩
    else later.head?.map fun second => ⟨first.points.length, second.points⟩

end Text

end IndexWire
