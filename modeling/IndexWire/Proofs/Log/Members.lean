import IndexWire.Log.Call
import IndexWire.Proofs.Store.Contents
import IndexWire.Proofs.Value.JsonReading

/-!
# Named values

What a dictionary has under a name, and what is found under it again once the dictionary has been
written as a JSON object: what is left there of the last value that was given under this name. Names
of the basic plane are the same in the object; others may fall together there.
-/

namespace IndexWire

section Entries

variable {κ ν : Type} [DecidableEq κ]

theorem putEntry_of_new {entries : List (κ × ν)} {key : κ}
    (new : ∀ entry ∈ entries, entry.1 ≠ key) (value : ν) :
    putEntry (fun left right => left = right) entries key value = entries ++ [(key, value)] := by
  have absent : (entries.any fun entry => decide (entry.1 = key)) = false := by
    simpa using new
  simp [putEntry, absent]

theorem find?_foldl_putEntry {later entries : List (κ × ν)} {key : κ}
    (others : ∀ other ∈ later, other.1 ≠ key) :
    (later.foldl (fun entries pair =>
      putEntry (fun left right => left = right) entries pair.1 pair.2) entries).find?
        (fun entry => entry.1 = key) = entries.find? fun entry => entry.1 = key := by
  induction later generalizing entries with
  | nil => rfl
  | cons other later ih =>
      rw [List.forall_mem_cons] at others
      rw [List.foldl_cons, ih others.2, find?_putEntry_of_ne (Ne.symm others.1)]

/-- Of entries with the same key the last one counts. -/
theorem find?_entriesOf {earlier later : List (κ × ν)} {key : κ} {value : ν}
    (others : ∀ other ∈ later, other.1 ≠ key) :
    (entriesOf (fun left right => left = right) (earlier ++ (key, value) :: later)).find?
      (fun entry => entry.1 = key) = some (key, value) := by
  rw [entriesOf, List.foldl_append, List.foldl_cons, find?_foldl_putEntry others]
  exact find?_putEntry_self _ key value

end Entries

namespace Value

/-- The value that a dictionary has under a name. -/
def member? (name : Text) : Value → Option Value
  | dict entries => (entries.find? fun entry => entry.1.sameKey (.text name)).map Prod.snd
  | _ => Option.none

/-- A dictionary whose keys are texts. -/
def ofNamed (pairs : List (Text × Value)) : List (Value × Value) :=
  pairs.map fun pair => (.text pair.1, pair.2)

theorem sameKey_text (left right : Text) :
    sameKey (.text left) (.text right) = decide (left = right) := by
  simp [sameKey, ratio?, beq_eq_decide]

theorem putEntry_ofNamed (pairs : List (Text × Value)) (name : Text) (value : Value) :
    putEntry sameKey (ofNamed pairs) (.text name) value
      = ofNamed (putEntry (fun left right => left = right) pairs name value) := by
  have known : ((ofNamed pairs).any fun entry => sameKey entry.1 (.text name))
      = pairs.any fun entry => decide (entry.1 = name) := by
    simp only [ofNamed, List.any_map, Function.comp_def, sameKey_text]
  unfold putEntry
  rw [known]
  split
  · simp only [ofNamed, List.map_map]
    apply List.map_congr_left
    intro pair mem
    by_cases same : pair.1 = name
    · simp [sameKey_text, same]
    · simp [sameKey_text, same]
  · simp [ofNamed]

theorem entriesOf_ofNamed (pairs : List (Text × Value)) :
    entriesOf sameKey (ofNamed pairs)
      = ofNamed (entriesOf (fun left right => left = right) pairs) := by
  have all : ∀ pairs entries : List (Text × Value),
      (ofNamed pairs).foldl (fun entries pair => putEntry sameKey entries pair.1 pair.2)
        (ofNamed entries)
      = ofNamed (pairs.foldl
        (fun entries pair => putEntry (fun left right => left = right) entries pair.1 pair.2)
          entries) := by
    intro pairs
    induction pairs with
    | nil => exact fun entries => rfl
    | cons pair pairs ih =>
        intro entries
        have split : ofNamed (pair :: pairs) = (.text pair.1, pair.2) :: ofNamed pairs := rfl
        rw [split, List.foldl_cons, putEntry_ofNamed, List.foldl_cons]
        exact ih _
  exact all pairs []

/-- A dictionary has the last value that it is given under a name. -/
theorem member?_dictOf {earlier later : List (Text × Value)} {name : Text} {value : Value}
    (others : ∀ other ∈ later, other.1 ≠ name) :
    (dictOf (ofNamed (earlier ++ (name, value) :: later))).member? name = some value := by
  have found :
      (entriesOf (fun left right => left = right) (earlier ++ (name, value) :: later)).find?
      (fun entry => entry.1 = name) = some (name, value) := find?_entriesOf others
  rw [dictOf, entriesOf_ofNamed]
  simp only [member?, ofNamed, List.find?_map, Function.comp_def, sameKey_text, found,
    Option.map_some]

end Value

namespace Text

/-- A text that is joined to one in the basic plane was that text before. -/
theorem eq_of_joined {text other : Text} (basic : ∀ point ∈ other, point.value < 0x10000)
    (same : text.joined = other) : text = other := by
  fun_induction joined text generalizing other with
  | case1 => exact same
  | case2 point => exact same
  | case3 first second rest pair ih =>
      exfalso
      subst same
      have low := basic _ List.mem_cons_self
      rw [Bool.and_eq_true] at pair
      have value := CodePoint.value_join pair.1 pair.2
      omega
  | case4 first second rest apart ih =>
      subst same
      rw [List.forall_mem_cons] at basic
      rw [← ih basic.2 rfl]

end Text

namespace Json

open Value

theorem memberImages_ofNamed (entries : List (Text × Value)) :
    memberImages (ofNamed entries)
      = ofNamed (entries.map fun entry => (entry.1.joined, image entry.2)) := by
  induction entries with
  | nil => rfl
  | cons entry entries ih => exact congrArg (_ :: ·) ih

theorem membersAreReadable_ofNamed {entries : List (Text × Value)}
    (readable : ∀ entry ∈ entries, isReadable entry.2 = true) :
    membersAreReadable (ofNamed entries) = true := by
  induction entries with
  | nil => rfl
  | cons entry entries ih =>
      rw [List.forall_mem_cons] at readable
      have split : ofNamed (entry :: entries) = (.text entry.1, entry.2) :: ofNamed entries := rfl
      rw [split, membersAreReadable, readable.1, ih readable.2]
      rfl

theorem ofMembers_eq (entries : List (Text × Value)) :
    ofMembers entries = ofValue (.dict (ofNamed entries)) := by
  have each : members (ofNamed entries)
      = entries.map fun entry => string entry.1 ++ Text.ofString ": " ++ ofValue entry.2 := by
    induction entries with
    | nil => rfl
    | cons entry entries ih => exact congrArg (_ :: ·) ih
  rw [ofValue, each, ofMembers]

theorem ofMembers?_of_readable {entries : List (Text × Value)}
    (readable : ∀ entry ∈ entries, isReadable entry.2 = true) :
    ofMembers? entries = some (ofMembers entries) := by
  rw [ofMembers?, if_pos]
  rw [List.all_eq_true]
  exact fun entry mem => hasKeys_of_readable entry.2 (readable entry mem)

/-- An object has, under the name of a member, what is left of the value in its text. -/
theorem member?_image {entries earlier later : List (Text × Value)} {name : Text} {value : Value}
    (split : entries = earlier ++ (name, value) :: later)
    (others : ∀ other ∈ later, other.1.joined ≠ name.joined) :
    (image (.dict (ofNamed entries))).member? name.joined = some (image value) := by
  rw [image, memberImages_ofNamed, split, List.map_append, List.map_cons]
  apply member?_dictOf
  intro other mem
  rcases List.mem_map.mp mem with ⟨member, among, rfl⟩
  exact others member among

end Json

end IndexWire
