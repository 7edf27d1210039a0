import IndexWire.Proofs.Document.Keys
import IndexWire.Proofs.Log.Members
import IndexWire.Proofs.Session.Settings

/-!
# Layers of settings

What becomes of an environment and a document when settings are loaded, whatever parser reads the
document. A variable that is set comes first, even if it is empty, then an entry of the document
that is something, then the default; which of them a setting is `Chosen` from is said by the
variables that are set and the entries that are there. As the keys of a dictionary are distinct,
neither the order of its entries nor the entries that name no setting have a part in this.

Settings are refused only when all layers are combined, so a layer may hold a policy that is not
known as long as another one goes before it.
-/

namespace IndexWire

namespace Settings

/-- The variable of a setting: its name in capitals after that of the library. -/
def variableName (field : Field) : Text := Text.ofString "BYTESINK_" ++ field.name.upper

theorem environmentName_eq (field : Field) : field.environmentName = variableName field := by
  cases field <;> rfl

theorem Field.ofName?_eq_some_iff {name : Text} {field : Field} :
    Field.ofName? name = some field ↔ name = field.name := by
  constructor
  · intro found
    have same := List.find?_some found
    simpa using (of_decide_eq_true same).symm
  · rintro rfl
    cases field <;> rfl

/-- Whether a key names a setting. -/
def IsKnown (key : Key) : Prop := ∃ field : Field, key = .text field.name

theorem Key.field?_eq_some_iff {key : Key} {field : Field} :
    key.field? = some field ↔ key = .text field.name := by
  cases key with
  | text content => simp only [field?, Field.ofName?_eq_some_iff, Key.text.injEq]
  | other literal => simp [field?]

theorem isKnown_iff (key : Key) : IsKnown key ↔ key.field?.isSome := by
  simp only [IsKnown, Option.isSome_iff_exists, Key.field?_eq_some_iff]

instance : DecidablePred IsKnown := fun key => decidable_of_iff _ (isKnown_iff key).symm

/-- Whether two keys are the same text. -/
def Key.isSame : Key → Key → Bool
  | text left, text right => left == right
  | _, _ => false

/-- Whether what a parser takes for a mapping has no text as a key twice. -/
def Parser.GivesDictionaries (parser : Parser) : Prop :=
  ∀ text entries, parser text = .ok (.mapping entries) → DistinctKeys Key.isSame entries

/-- What is reported of a key that names no setting. -/
def unknownKeyNotice (place : Text) (key : Key) : Notice where
  level := .warning
  logger
  message :=
    Text.ofString "ignoring unknown config key " ++ key.literal ++ Text.ofString " in " ++ place

/-- What the layers give a setting. -/
inductive Chosen (environment : Environment) (entries : List (Key × Option Text)) (field : Field) :
    Value → Prop
  /-- A variable that is set goes before everything, also if it is empty. -/
  | ofVariable {content : Text} (set : environment.get? (variableName field) = some content) :
      Chosen environment entries field (.text content)
  | ofDocument {content : Text} (unset : environment.get? (variableName field) = none)
      (given : (.text field.name, some content) ∈ entries) :
      Chosen environment entries field (.text content)
  | byDefault (unset : environment.get? (variableName field) = none)
      (nothing : ∀ content, (.text field.name, some content) ∉ entries) :
      Chosen environment entries field (default field)

/-! ## The layer of a document -/

section Document

variable {entries others : List (Key × Option Text)}

theorem mem_documentValues {field : Field} {content : Text} :
    (field, content) ∈ documentValues entries ↔ (.text field.name, some content) ∈ entries := by
  simp only [documentValues, List.mem_filterMap]
  constructor
  · intro found
    rcases found with ⟨⟨key, value⟩, mem, same⟩
    split at same
    · rename_i named something
      cases same
      obtain rfl := Key.field?_eq_some_iff.mp named
      exact something ▸ mem
    · cases same
  · intro given
    refine ⟨_, given, ?_⟩
    simp only [Key.field?_eq_some_iff.mpr rfl]

/-- The layer of a document in terms of its entries alone. -/
theorem documentLayer_eq_some_iff (distinct : DistinctKeys Key.isSame entries) {field : Field}
    {content : Text} :
    documentLayer entries field = some content ↔ (.text field.name, some content) ∈ entries := by
  rw [← mem_documentValues]
  constructor
  · intro found
    simp only [documentLayer, Option.map_eq_some_iff] at found
    rcases found with ⟨⟨named, other⟩, found, rfl⟩
    have same : named = field := by simpa using List.find?_some found
    rw [← same]
    exact List.mem_of_find?_eq_some found
  · intro mem
    cases outcome : (documentValues entries).find? fun entry => entry.1 = field with
    | none =>
        have different := List.find?_eq_none.mp outcome _ mem
        simp at different
    | some entry =>
        rcases entry with ⟨named, other⟩
        have same : named = field := by simpa using List.find?_some outcome
        subst same
        have given := mem_documentValues.mp mem
        have first := mem_documentValues.mp (List.mem_of_find?_eq_some outcome)
        have self : Key.isSame (.text named.name) (.text named.name) = true := by
          simp [Key.isSame]
        cases distinct.value_unique self given first
        simp [documentLayer, outcome]

theorem documentLayer_eq_none_iff {field : Field} :
    documentLayer entries field = none ↔
      ∀ content, (.text field.name, some content) ∉ entries := by
  simp only [documentLayer, Option.map_eq_none_iff, List.find?_eq_none, decide_eq_true_eq]
  constructor
  · intro absent content given
    exact absent _ (mem_documentValues.mpr given) rfl
  · intro nothing entry mem same
    subst same
    exact nothing _ (mem_documentValues.mp mem)

/-- Documents with the same entries for the settings, in whatever order, are the same layer. -/
theorem documentLayer_congr (distinct : DistinctKeys Key.isSame entries)
    (distinctOthers : DistinctKeys Key.isSame others)
    (same : (entries.filter fun entry => IsKnown entry.1).Perm
      (others.filter fun entry => IsKnown entry.1)) :
    documentLayer entries = documentLayer others := by
  have known : ∀ field content, (.text (Field.name field), some content) ∈ entries ↔
      (.text field.name, some content) ∈ others := by
    intro field content
    have mem := @List.Perm.mem_iff _ (.text field.name, some content) _ _ same
    have names : IsKnown (.text field.name) := ⟨field, rfl⟩
    simpa [List.mem_filter, names] using mem
  ext field content
  simp only [documentLayer_eq_some_iff distinct, documentLayer_eq_some_iff distinctOthers, known]

theorem length_documentValues (entries : List (Key × Option Text)) :
    (documentValues entries).length
      = entries.countP fun entry => IsKnown entry.1 ∧ entry.2.isSome := by
  rw [documentValues, List.length_filterMap_eq_countP]
  apply List.countP_congr
  intro entry mem
  rcases entry with ⟨key, value⟩
  cases named : key.field? <;> cases value <;> simp [isKnown_iff, named]

theorem unknownKeyNotices_eq (place : Text) (entries : List (Key × Option Text)) :
    unknownKeyNotices place entries
      = (entries.filter fun entry => ¬IsKnown entry.1).map fun entry =>
        unknownKeyNotice place entry.1 := by
  induction entries with
  | nil => rfl
  | cons entry rest ih =>
      by_cases known : IsKnown entry.1
      · have named := (isKnown_iff entry.1).mp known
        simpa [unknownKeyNotices, known, named] using ih
      · have unnamed := (isKnown_iff entry.1).not.mp known
        simpa [unknownKeyNotices, known, unnamed, unknownKeyNotice] using ih

end Document

/-! ## All layers together -/

/-- The settings that the layers give. -/
def layered (environment : Environment) (entries : List (Key × Option Text)) : Settings :=
  ofLayer fun field => (environmentLayer environment field).or (documentLayer entries field)

section Layered

variable {environment : Environment} {entries : List (Key × Option Text)}

theorem get_ofLayer (layer : Field → Option Text) (field : Field) :
    (ofLayer layer).get field = (layer field).elim (default field) .text := by
  cases field <;> rfl

/-- What the layers give a setting is what it is chosen to be, and nothing else. -/
theorem chosen_iff (distinct : DistinctKeys Key.isSame entries) {field : Field}
    {value : Value} :
    Chosen environment entries field value ↔ value = (layered environment entries).get field := by
  rw [layered, get_ofLayer, environmentLayer, environmentName_eq]
  constructor
  · intro chosen
    cases chosen with
    | ofVariable set => simp [set]
    | ofDocument unset given =>
        have layer := (documentLayer_eq_some_iff distinct).mpr given
        simp [unset, layer]
    | byDefault unset nothing =>
        have layer := documentLayer_eq_none_iff.mpr nothing
        simp [unset, layer]
  · rintro rfl
    cases set : environment.get? (variableName field) with
    | some content => exact .ofVariable set
    | none =>
        cases layer : documentLayer entries field with
        | some content => exact .ofDocument set ((documentLayer_eq_some_iff distinct).mp layer)
        | none => exact .byDefault set (documentLayer_eq_none_iff.mp layer)

theorem existsUnique_chosen (distinct : DistinctKeys Key.isSame entries) (field : Field) :
    ∃! value, Chosen environment entries field value := by
  simp only [chosen_iff distinct]
  exact existsUnique_eq

theorem checked_eq_ok_iff {settings : Settings} :
    settings.checked = .ok settings ↔
      ∃ policy : SurrogatePolicy, settings.surrogatePolicy = .text policy.name := by
  constructor
  · intro valid
    rcases map_eq_ok.mp valid with ⟨policy, known, -⟩
    exact ⟨policy, Session.ofValue_eq_ok_iff.mp known⟩
  · intro known
    rcases known with ⟨policy, known⟩
    exact map_eq_ok.mpr ⟨policy, Session.ofValue_eq_ok_iff.mpr known, rfl⟩

/-- Settings are refused for their policy alone, and otherwise stay as they are. -/
theorem checked_cases (settings : Settings) :
    settings.checked = .ok settings ∨
      settings.checked = .error (.unknownPolicy settings.surrogatePolicy.literal) := by
  unfold checked SurrogatePolicy.ofValue
  split
  · exact .inl rfl
  · exact .inr rfl

theorem eq_of_checked {settings other : Settings} (valid : settings.checked = .ok other) :
    other = settings := by
  rcases checked_cases settings with same | refused
  · rw [same] at valid
    cases valid
    rfl
  · rw [refused] at valid
    cases valid

theorem category_of_checked {settings : Settings} {fault : Fault}
    (refused : settings.checked = .error fault) : fault.category = .value := by
  rcases checked_cases settings with valid | same
  · rw [valid] at refused
    cases refused
  · rw [same] at refused
    cases refused
    rfl

/-- Settings are refused if and only if their policy has neither of the two names. -/
theorem checked_refused_iff {settings : Settings} :
    (∃ fault, settings.checked = .error fault) ↔
      settings.surrogatePolicy ≠ .text (Text.ofString "replace") ∧
        settings.surrogatePolicy ≠ .text (Text.ofString "strict") := by
  constructor
  · intro refused
    rcases refused with ⟨fault, refused⟩
    constructor
    · intro named
      rw [checked_eq_ok_iff.mpr ⟨.replace, named⟩] at refused
      cases refused
    · intro named
      rw [checked_eq_ok_iff.mpr ⟨.strict, named⟩] at refused
      cases refused
  · intro other
    rcases checked_cases settings with valid | refused
    · exfalso
      rcases checked_eq_ok_iff.mp valid with ⟨policy, named⟩
      cases policy with
      | replace => exact other.1 named
      | strict => exact other.2 named
    · exact ⟨_, refused⟩

end Layered

/-! ## Loading -/

/--
The entries that are taken from what was parsed: those of a mapping, and none from nothing or if
there is no document.
-/
inductive Holds : Option Contents → List (Key × Option Text) → Prop where
  | ofMapping (entries : List (Key × Option Text)) : Holds (some (.mapping entries)) entries
  | ofNothing : Holds (some .nothing) []
  | ofAbsence : Holds none []

/-- What a parser makes of what stands at the place from which settings are loaded. -/
structure Reads (parser : Parser) (directory : Directory) (environment : Environment)
    (path : Option Path) (place : Path) (parsed : Option Contents) : Prop where
  found : path.elim (defaultPath environment) .ok = .ok place
  read : readDocument parser directory place = .ok parsed

section Loading

variable {parser : Parser} {directory : Directory} {environment : Environment} {path : Option Path}
  {place : Path} {parsed : Option Contents} {entries : List (Key × Option Text)}

theorem loadWith_eq (reads : Reads parser directory environment path place parsed) :
    loadWith parser directory environment path
      = ofDocument environment place.text
          (parsed.elim (Text.ofString "defaults") fun _ => place.text)
          (parsed.getD .nothing) := by
  rw [loadWith, reads.found]
  simp only [reads.read]
  cases parsed with
  | none => rfl
  | some document => rfl

theorem Holds.entriesOfDocument (holds : Holds parsed entries) (name : Text) :
    Settings.entriesOfDocument name (parsed.getD .nothing) = .ok entries := by
  cases holds <;> rfl

theorem distinctKeys_of_holds (dictionaries : parser.GivesDictionaries)
    (reads : Reads parser directory environment path place parsed) (holds : Holds parsed entries) :
    DistinctKeys Key.isSame entries := by
  cases holds with
  | ofMapping entries =>
      rcases bind_eq_ok.mp reads.read with ⟨entry, -, mapping⟩
      split at mapping
      · cases mapping
      · cases mapping
      · rcases bind_eq_ok.mp mapping with ⟨text, -, mapping⟩
        rcases bind_eq_ok.mp mapping with ⟨document, read, same⟩
        cases same
        exact dictionaries _ entries read
  | ofNothing => exact List.Pairwise.nil
  | ofAbsence => exact List.Pairwise.nil

/-- What loading reports of the keys that it passes over. -/
def passedOver (place : Path) (entries : List (Key × Option Text)) : List Notice :=
  (entries.filter fun entry => ¬IsKnown entry.1).map fun entry =>
    unknownKeyNotice place.text entry.1

/-- What loading reports at its end. -/
def loadedFrom (environment : Environment) (place : Path) (parsed : Option Contents)
    (entries : List (Key × Option Text)) : Notice :=
  loadedNotice (parsed.elim (Text.ofString "defaults") fun _ => place.text)
    (entries.countP fun entry => IsKnown entry.1 ∧ entry.2.isSome)
    (Field.all.countP fun field => (environment.get? (variableName field)).isSome)

/-- Loading gives what the layers give if that is valid, and reports what it has passed over. -/
theorem loadWith_of_holds (reads : Reads parser directory environment path place parsed)
    (holds : Holds parsed entries) :
    let report := loadWith parser directory environment path
    report.result = (layered environment entries).checked ∧
      report.notices = passedOver place entries ++
        match report.result with
        | .error _ => []
        | .ok _ => [loadedFrom environment place parsed entries] := by
  simp only [loadWith_eq reads, ofDocument, holds.entriesOfDocument place.text]
  rcases checked_cases (layered environment entries) with valid | refused
  · have result := valid
    rw [layered] at result
    simp only [result]
    refine ⟨valid.symm, ?_⟩
    rw [unknownKeyNotices_eq, length_documentValues, ← List.countP_eq_length_filter]
    simp only [environmentLayer, environmentName_eq]
    rfl
  · have result := refused
    rw [layered] at result
    simp only [result]
    refine ⟨refused.symm, ?_⟩
    rw [unknownKeyNotices_eq, List.append_nil]
    rfl

theorem exists_dict_of_mapping {value : Value}
    (mapping : Contents.ofValue value = .mapping entries) :
    ∃ pairs, value = .dict pairs ∧
      entries = pairs.map fun (key, value) => (Key.ofValue key, shownValue? value) := by
  unfold Contents.ofValue at mapping
  split at mapping
  · cases mapping
    exact ⟨_, rfl, rfl⟩
  · split at mapping <;> cases mapping

/-- Keys that are different values are not the same text. -/
theorem Key.isSame_ofValue {left right : Value} (apart : Value.sameKey left right = false) :
    Key.isSame (ofValue left) (ofValue right) = false := by
  cases left with
  | text first =>
      cases right with
      | text second => simpa [Value.sameKey_text, ofValue, isSame] using apart
      | _ => rfl
  | _ => rfl

/-- The parser of this library gives dictionaries. -/
theorem givesDictionaries_parseDocument : parseDocument.GivesDictionaries := by
  intro text entries parsed
  rcases map_eq_ok.mp parsed with ⟨value, read, mapping⟩
  rcases exists_dict_of_mapping mapping with ⟨pairs, rfl, rfl⟩
  apply List.pairwise_map.mpr
  exact (Document.distinctKeys_read read).imp Key.isSame_ofValue

end Loading

end Settings

end IndexWire
