import IndexWire.Proofs.CommandLine.Mistakes
import IndexWire.Proofs.CommandLine.Rejected
import IndexWire.Proofs.Wire.Unsigned
import Mathlib.Data.Finset.Card
import Mathlib.Data.List.Induction

/-!
# Maps and sets of arguments

What a reader finds in the bytes of a map or a set that the arguments of a run give. Of the elements
of a set each one stands once, where it is first given. An entry of a map is cut at its first equals
sign; each key stands once, where it is first given, and has the value that is given last. Keys and
elements are compared as they are given, and found without surrogates.

The counts before texts and collections have 32 bits. The usual reader takes them for signed ones,
and so does not read all that is written; one that takes them for unsigned ones does.
-/

namespace IndexWire

/-! ## Lists without repetitions -/

section Repetitions

variable {α : Type} [BEq α] [LawfulBEq α]

/-- An item at the end of a list is dropped if it was there before. -/
theorem eraseDups_concat (items : List α) (item : α) :
    (items ++ [item]).eraseDups
      = if item ∈ items then items.eraseDups else items.eraseDups ++ [item] := by
  rw [List.eraseDups_append]
  split
  · rename_i there
    simp [List.removeAll, there]
  · rename_i new
    simp [List.removeAll, new, List.eraseDups_cons]

/-- To keep the first of equal items is to keep the last of them from the other end. -/
theorem eraseDups_eq_dedup [DecidableEq α] (items : List α) :
    items.eraseDups = items.reverse.dedup.reverse := by
  induction items using List.reverseRecOn with
  | nil => rfl
  | append_singleton items item ih =>
      rw [eraseDups_concat, List.reverse_append, List.reverse_singleton, List.singleton_append,
        List.dedup_cons, ih]
      by_cases there : item ∈ items
      · simp [there]
      · simp [there]

theorem length_eraseDups [DecidableEq α] (items : List α) :
    items.eraseDups.length = items.toFinset.card := by
  rw [eraseDups_eq_dedup, List.length_reverse, ← List.card_toFinset, List.toFinset_reverse]

end Repetitions

theorem CodePoint.is_iff {point : CodePoint} {character : Char} :
    point.is character = true ↔ point = .ofChar character := by
  rw [CodePoint.ext_iff, CodePoint.value_ofChar, CodePoint.is, beq_iff_eq]

namespace CommandLine

namespace Arguments

variable {text key : Text}

theorem no_sign_of_not_mem (plain : .ofChar '=' ∉ text) :
    ∀ point ∈ text, (!point.is '=') = true := by
  intro point mem
  rw [Bool.not_eq_true', Bool.eq_false_iff, Ne, CodePoint.is_iff]
  rintro rfl
  exact plain mem

theorem splitEquals_of_not_mem (plain : .ofChar '=' ∉ text) : splitEquals text = (text, none) := by
  have nothing := @List.dropWhile_append_of_pos _ _ _ [] (no_sign_of_not_mem plain)
  rw [List.append_nil, List.dropWhile_nil] at nothing
  rw [splitEquals, nothing]

/-- A text is cut at its first equals sign. -/
theorem splitEquals_append (plain : .ofChar '=' ∉ key) (value : Text) :
    splitEquals (key ++ .ofChar '=' :: value) = (key, some value) := by
  have before := no_sign_of_not_mem plain
  have sign : (!(CodePoint.ofChar '=').is '=') = false := by rfl
  simp only [splitEquals, List.dropWhile_append_of_pos before, List.takeWhile_append_of_pos before,
    List.dropWhile_cons, List.takeWhile_cons, sign, Bool.false_eq_true, if_false, List.append_nil]

end Arguments

theorem Payload.distinct_eq_eraseDups (elements : List Text) :
    distinct elements = elements.eraseDups := by
  induction elements using List.reverseRecOn with
  | nil => rfl
  | append_singleton elements element ih =>
      have last : distinct (elements ++ [element])
          = if (distinct elements).contains element then distinct elements
            else distinct elements ++ [element] := by
        rw [distinct, List.foldl_append]
        rfl
      rw [last, ih, eraseDups_concat]
      simp only [List.contains_iff_mem, List.mem_eraseDups]

/-- The last of the pairs with each key, in the order in which the keys are first given. -/
def collect (pairs : List (Text × Text)) : List (Text × Text) :=
  (pairs.map Prod.fst).eraseDups.filterMap fun key =>
    pairs.reverse.find? fun pair => pair.1 = key

theorem find?_reverse_concat (pairs : List (Text × Text)) (pair : Text × Text) (key : Text) :
    ((pairs ++ [pair]).reverse.find? fun other => other.1 = key)
      = if pair.1 = key then some pair else pairs.reverse.find? fun other => other.1 = key := by
  rw [List.reverse_append, List.reverse_singleton, List.singleton_append, List.find?_cons]
  by_cases same : pair.1 = key
  · simp [same]
  · simp [same]

theorem exists_last_of_mem {pairs : List (Text × Text)} {key : Text}
    (given : key ∈ pairs.map Prod.fst) :
    ∃ value, (pairs.reverse.find? fun pair => pair.1 = key) = some (key, value) := by
  rcases List.mem_map.mp given with ⟨pair, mem, rfl⟩
  have there : (pairs.reverse.find? fun other => other.1 = pair.1).isSome := by
    rw [List.find?_isSome]
    exact ⟨pair, List.mem_reverse.mpr mem, decide_eq_true rfl⟩
  rcases Option.isSome_iff_exists.mp there with ⟨⟨key, value⟩, found⟩
  have same : key = pair.1 := by simpa using List.find?_some found
  subst same
  exact ⟨value, found⟩

theorem any_key_collect (pairs : List (Text × Text)) (key : Text) :
    ((collect pairs).any fun entry => entry.1 = key) = true ↔ key ∈ pairs.map Prod.fst := by
  simp only [List.any_eq_true, decide_eq_true_eq]
  constructor
  · rintro ⟨entry, mem, rfl⟩
    rcases List.mem_filterMap.mp mem with ⟨key, -, found⟩
    exact List.mem_map_of_mem (List.mem_reverse.mp (List.mem_of_find?_eq_some found))
  · intro given
    rcases exists_last_of_mem given with ⟨value, found⟩
    exact ⟨(key, value), List.mem_filterMap.mpr ⟨key, List.mem_eraseDups.mpr given, found⟩, rfl⟩

/-- A pair at the end takes the place of the one with its key, or comes last. -/
theorem collect_concat (pairs : List (Text × Text)) (pair : Text × Text) :
    collect (pairs ++ [pair])
      = putEntry (fun left right => left = right) (collect pairs) pair.1 pair.2 := by
  have keys : ((pairs ++ [pair]).map Prod.fst).eraseDups
      = if pair.1 ∈ pairs.map Prod.fst then (pairs.map Prod.fst).eraseDups
        else (pairs.map Prod.fst).eraseDups ++ [pair.1] := by
    rw [List.map_append, List.map_singleton, eraseDups_concat]
  by_cases there : pair.1 ∈ pairs.map Prod.fst
  · rw [putEntry, if_pos ((any_key_collect pairs pair.1).mpr there), collect, keys,
      if_pos there, collect, List.map_filterMap]
    apply List.filterMap_congr
    intro key mem
    -- the new pair is what is last found with its own key; with other keys nothing changes
    rcases exists_last_of_mem (List.mem_eraseDups.mp mem) with ⟨value, found⟩
    rw [find?_reverse_concat, found]
    by_cases same : pair.1 = key
    · subst same
      simp
    · simp [same, Ne.symm same]
  · rw [putEntry, if_neg (mt (any_key_collect pairs pair.1).mp there), collect, keys,
      if_neg there, List.filterMap_append]
    have last : (([pair.1] : List Text).filterMap fun key =>
        (pairs ++ [pair]).reverse.find? fun other => other.1 = key) = [(pair.1, pair.2)] := by
      simp
    rw [last, collect]
    congr 1
    apply List.filterMap_congr
    intro key mem
    have other : pair.1 ≠ key := by
      rintro rfl
      exact there (List.mem_eraseDups.mp mem)
    rw [find?_reverse_concat, if_neg other]

theorem entriesOf_eq_collect (pairs : List (Text × Text)) :
    entriesOf (fun left right => left = right) pairs = collect pairs := by
  induction pairs using List.reverseRecOn with
  | nil => rfl
  | append_singleton pairs pair ih =>
      rw [collect_concat, ← ih, entriesOf, List.foldl_append]
      rfl

namespace Payload

theorem splitEntry_of_not_mem {entry : Text} (plain : .ofChar '=' ∉ entry) :
    splitEntry entry = .error (.malformedEntry entry) := by
  rw [splitEntry, Arguments.splitEquals_of_not_mem plain]

/-- An entry as it is given: a key, an equals sign and a value. -/
def entryOf (pair : Text × Text) : Text := pair.1 ++ .ofChar '=' :: pair.2

theorem splitEntry_entryOf {pair : Text × Text} (plain : .ofChar '=' ∉ pair.1) :
    splitEntry (entryOf pair) = .ok pair := by
  rw [splitEntry, entryOf, Arguments.splitEquals_append plain]

theorem mapM_splitEntry {pairs : List (Text × Text)}
    (plain : ∀ pair ∈ pairs, .ofChar '=' ∉ pair.1) :
    (pairs.map entryOf).mapM splitEntry = .ok pairs := by
  induction pairs with
  | nil => rfl
  | cons pair rest ih =>
      rw [List.forall_mem_cons] at plain
      rw [List.map_cons, List.mapM_cons, splitEntry_entryOf plain.1, ih plain.2]
      rfl

/-- Each entry with an equals sign is one that its first equals sign makes. -/
theorem exists_entryOf {entry : Text} (sign : .ofChar '=' ∈ entry) :
    ∃ pair, entryOf pair = entry ∧ .ofChar '=' ∉ pair.1 := by
  rcases List.eq_append_cons_of_mem sign with ⟨key, value, rfl, plain⟩
  exact ⟨(key, value), rfl, plain⟩

theorem exists_map_entryOf {entries : List Text} (sign : ∀ entry ∈ entries, .ofChar '=' ∈ entry) :
    ∃ pairs : List (Text × Text), pairs.map entryOf = entries ∧
      ∀ pair ∈ pairs, .ofChar '=' ∉ pair.1 := by
  induction entries with
  | nil => exact ⟨[], rfl, by simp⟩
  | cons entry rest ih =>
      rw [List.forall_mem_cons] at sign
      rcases exists_entryOf sign.1 with ⟨pair, rfl, plain⟩
      rcases ih sign.2 with ⟨pairs, rfl, others⟩
      exact ⟨pair :: pairs, rfl, List.forall_mem_cons.mpr ⟨plain, others⟩⟩

end Payload

theorem keys_collect (pairs : List (Text × Text)) :
    (collect pairs).map Prod.fst = (pairs.map Prod.fst).eraseDups := by
  have each : ((pairs.map Prod.fst).eraseDups.filterMap fun key =>
      (pairs.reverse.find? fun pair => pair.1 = key).map Prod.fst)
      = (pairs.map Prod.fst).eraseDups.filterMap some := by
    apply List.filterMap_congr
    intro key mem
    rcases exists_last_of_mem (List.mem_eraseDups.mp mem) with ⟨value, found⟩
    rw [found]
    rfl
  rw [collect, List.map_filterMap, each, List.filterMap_some]

theorem length_collect (pairs : List (Text × Text)) :
    (collect pairs).length = (pairs.map Prod.fst).toFinset.card := by
  rw [← length_eraseDups, ← keys_collect, List.length_map]

namespace Payload

/-- The request of a set that lists the given texts. -/
def setRequest (texts : List Text) : Request := .stringSet (.list (texts.map .text))

/-- The request of a map with the given entries. -/
def mapRequest (entries : List (Text × Text)) : Request :=
  .stringMap (entries.map fun entry => (.text entry.1, .text entry.2))

theorem request_set (elements : List Text) :
    (set elements).request = .ok (setRequest elements.eraseDups) := by
  rw [request, distinct_eq_eraseDups, setRequest]

theorem request_map {pairs : List (Text × Text)} (plain : ∀ pair ∈ pairs, .ofChar '=' ∉ pair.1) :
    (map (pairs.map entryOf)).request = .ok (mapRequest (collect pairs)) := by
  rw [request, mapOf, mapM_splitEntry plain, ← entriesOf_eq_collect]
  rfl

/-- The first entry without an equals sign is the one that is refused. -/
theorem request_of_malformed {front later : List Text} {bad : Text}
    (sign : ∀ entry ∈ front, .ofChar '=' ∈ entry) (plain : .ofChar '=' ∉ bad) :
    (map (front ++ bad :: later)).request = .error (.malformedEntry bad) := by
  rcases exists_map_entryOf sign with ⟨pairs, rfl, others⟩
  rw [request, mapOf, List.mapM_append, mapM_splitEntry others, List.mapM_cons,
    splitEntry_of_not_mem plain]
  rfl

end Payload

namespace EncodeRun

/-- Whether a run shows bytes by their digits, or adds them to a file. -/
structure Gives (encode : EncodeRun) (bytes : Bytes) : Prop where
  shown : encode.order.out = none → encode.order.separator.IsClean →
    encode.Prints (hexLine encode.order.separator bytes).withoutEscapes
  added : ∀ path target opened, encode.order.out = some path →
    encode.ready.directory.openAppend path = .ok (target, opened) →
    ¬encode.ready.log.WritesTo target →
    encode.outcome.directory.entry? target
      = some (.file (encode.surroundings.directory.content target ++ bytes))

variable {encode : EncodeRun} {request : Request}

theorem gives_of_accepted (requested : encode.order.payload.request = .ok request)
    (accepted : (request.plan encode.policy).fault = none) :
    encode.Gives (request.plan encode.policy).bytes where
  shown out clean := encode.prints_of_shown requested out accepted clean
  added _ _ _ out writable unlogged :=
    (encode.adds_to_file requested out accepted writable unlogged).2

section Reading

open Wire

variable {α : Type} {count : Nat} {texts : List Text}

/--
Whether a run gives a collection of which a reader with unsigned counts finds the count and the
values, and the usual reader the values if the counts are no greater than it can tell. If they are
too great to be written, the run fails.
-/
structure GivesBack (encode : EncodeRun) (count : Nat) (texts : List Text) (read : Parser α)
    (values : List α) (shape : Shape) (datum : Datum) : Prop where
  gives : CountedBelow (2 ^ 32) count texts → ∃ bytes, encode.Gives bytes ∧
    readTallied read bytes = .ok ((count, values), []) ∧
    (CountedBelow (2 ^ 31) count texts → shape.read bytes = .ok (datum, []))
  fails : ¬CountedBelow (2 ^ 32) count texts → encode.Fails

theorem givesBack_of_lists (requested : encode.order.payload.request = .ok request)
    (replaces : encode.policy = .replace) (lists : request.Lists count texts) {read : Parser α}
    {values : List α}
    (spelled : CountedBelow (2 ^ 32) count texts →
      Spells (readTallied read) (Plan.counted .replace count (texts.map Value.text)).bytes
        (count, values))
    (short : CountedBelow (2 ^ 31) count texts → request.IsShort) :
    encode.GivesBack count texts read values request.shape request.datum := by
  have plan : request.plan encode.policy = .counted .replace count (texts.map Value.text) := by
    rw [Request.plan_of_lists lists, replaces]
  have accepted :
      (request.plan encode.policy).fault = none ↔ CountedBelow (2 ^ 32) count texts := by
    rw [plan]
    exact Plan.fault_counted_replace_eq_none_iff
  constructor
  · intro counts
    refine ⟨_, gives_of_accepted requested (accepted.mpr counts), ?_, fun few => ?_⟩
    · have found := (spelled counts).complete []
      rwa [List.append_nil, ← plan] at found
    · have taken := accepted.mpr counts
      rw [replaces] at taken ⊢
      have found := (Request.spells taken (short few)).complete []
      rwa [List.append_nil] at found
  · intro many
    exact encode.fails_of_refused requested (mt accepted.mp many)

end Reading

end EncodeRun

namespace Payload

open Wire

variable {texts : List Text} {entries : List (Text × Text)}

theorem lists_setRequest (texts : List Text) : (setRequest texts).Lists texts.length texts :=
  ⟨rfl, rfl⟩

theorem lists_mapRequest (entries : List (Text × Text)) :
    (mapRequest entries).Lists entries.length (partsOf entries) := by
  refine ⟨List.length_map _, ?_⟩
  rw [List.flatMap_map, partsOf, List.map_flatMap]
  rfl

theorem isShort_setRequest (counts : CountedBelow (2 ^ 31) texts.length texts) :
    (setRequest texts).IsShort := by
  refine ⟨?_, List.forall_mem_map.mpr counts.2⟩
  exact (List.length_map Value.text).trans_lt counts.1

theorem isShort_mapRequest (counts : CountedBelow (2 ^ 31) entries.length (partsOf entries)) :
    (mapRequest entries).IsShort := by
  refine ⟨(List.length_map _).trans_lt counts.1, List.forall_mem_map.mpr fun entry mem => ?_⟩
  have part : ∀ content ∈ [entry.1, entry.2], content ∈ partsOf entries :=
    fun content among => List.mem_flatMap.mpr ⟨entry, mem, among⟩
  exact ⟨counts.2 entry.1 (part entry.1 (by simp)), counts.2 entry.2 (part entry.2 (by simp))⟩

theorem datum_setRequest (texts : List Text) :
    (setRequest texts).datum = .elements (texts.map Text.repair) :=
  congrArg Datum.elements List.map_map

theorem datum_mapRequest (entries : List (Text × Text)) :
    (mapRequest entries).datum
      = .entries (entries.map (Prod.map Text.repair Text.repair)) :=
  congrArg Datum.entries List.map_map

end Payload

namespace EncodeRun

open Payload

variable {encode : EncodeRun}

/-- A set is read back as its elements without repetitions. -/
theorem givesBack_of_set (replaces : encode.policy = .replace) {elements : List Text}
    (payload : encode.order.payload = .set elements) :
    encode.GivesBack elements.toFinset.card elements.eraseDups Wire.readLongText
      (elements.eraseDups.map Text.repair) .stringSet
      (.elements (elements.eraseDups.map Text.repair)) := by
  have requested : encode.order.payload.request = .ok (setRequest elements.eraseDups) := by
    rw [payload, request_set]
  rw [← length_eraseDups, ← datum_setRequest]
  exact givesBack_of_lists requested replaces (lists_setRequest _) Wire.spells_elements
    isShort_setRequest

/-- A map is read back as what is collected of its pairs. -/
theorem givesBack_of_map (replaces : encode.policy = .replace) {pairs : List (Text × Text)}
    (plain : ∀ pair ∈ pairs, .ofChar '=' ∉ pair.1)
    (payload : encode.order.payload = .map (pairs.map entryOf)) :
    encode.GivesBack (pairs.map Prod.fst).toFinset.card (Wire.partsOf (collect pairs))
      Wire.readLongPair ((collect pairs).map (Prod.map Text.repair Text.repair))
      .stringMap (.entries ((collect pairs).map (Prod.map Text.repair Text.repair))) := by
  have requested : encode.order.payload.request = .ok (mapRequest (collect pairs)) := by
    rw [payload, request_map plain]
  rw [← length_collect, ← datum_mapRequest]
  exact givesBack_of_lists requested replaces (lists_mapRequest _) Wire.spells_entries
    isShort_mapRequest

/-- The line that tells of an entry without an equals sign, and quotes it. -/
def malformedLine (bad : Text) : Text :=
  let told := Text.ofString "expected KEY=VALUE, got " ++ Text.quoted bad
  Text.ofString "Error: " ++ told.withoutEscapes.withSurrogatesSpelled ++ Text.ofString "\n"

/-- Whether a run fails due to an entry, and does nothing to the files but to set up its log. -/
structure RefusesEntry (encode : EncodeRun) (bad : Text) : Prop where
  fails : encode.Fails
  tells : ∃ logged, encode.outcome.stderr = logged ++ malformedLine bad
  contents : ∀ location, encode.outcome.directory.content location
    = encode.surroundings.directory.content location
  makes : Directory.MakesOnly encode.ready.log.WritesTo encode.surroundings.directory
    encode.outcome.directory

theorem refusesEntry_of_malformed {front later : List Text} {bad : Text}
    (sign : ∀ entry ∈ front, .ofChar '=' ∈ entry) (plain : .ofChar '=' ∉ bad)
    (payload : encode.order.payload = .map (front ++ bad :: later)) : encode.RefusesEntry bad := by
  have malformed : encode.order.payload.request = .error (.malformedEntry bad) := by
    rw [payload, request_of_malformed sign plain]
  have same := directory_of_malformed malformed
  have ends := encode.endsWith_outcome
  rw [encode.encode_of_malformed malformed] at ends
  rcases ends.2 with ⟨_, logged, ⟨⟩, line⟩
  exact {
    fails := encode.fails_of_payload malformed
    tells := ⟨logged, line⟩
    contents := fun location => by
      rw [same]
      exact encode.ready_of_start.2.2.contents location not_false
    makes := by
      rw [same]
      exact makesOnly_prepare encode.configured }

end EncodeRun

/-- Whether arguments are read as an order to encode. -/
def Orders (arguments : List Text) (order : EncodeOrder) : Prop :=
  ∃ invocation, Invocation.read arguments = .ok invocation ∧ invocation.topic = .encode ∧
    EncodeOrder.read invocation.arguments = .ok order

/-- After two dashes all arguments are elements of the set, or entries of the map. -/
theorem orders_collection (texts : List Text) :
    Orders (["encode", "set", "--"].map Text.ofString ++ texts)
        ⟨.set texts, none, Text.ofString " "⟩ ∧
      Orders (["encode", "map", "--"].map Text.ofString ++ texts)
        ⟨.map texts, none, Text.ofString " "⟩ :=
  ⟨⟨⟨none, .encode, ["set", "--"].map Text.ofString ++ texts⟩, rfl, rfl, rfl⟩,
    ⟨⟨none, .encode, ["map", "--"].map Text.ofString ++ texts⟩, rfl, rfl, rfl⟩⟩

/--
Every list of texts can be given as the arguments of a set or of a map. Of the elements of a set a
reader finds each one once, in the order in which they are first given, and the count of them. If
each entry of a map holds an equals sign, it is a pair of texts with the first such sign between
them; a reader finds the last pair with each key, in the order in which the keys are first given,
and the count of the keys. If there is an entry without an equals sign, the first such entry is told
of, nothing is shown, and no file gets a byte.
-/
theorem collections_read_back :
    (∀ texts,
      Orders (["encode", "set", "--"].map Text.ofString ++ texts)
          ⟨.set texts, none, Text.ofString " "⟩ ∧
        Orders (["encode", "map", "--"].map Text.ofString ++ texts)
          ⟨.map texts, none, Text.ofString " "⟩) ∧
    (∀ (encode : EncodeRun) (elements : List Text), encode.policy = .replace →
      encode.order.payload = .set elements →
        encode.GivesBack elements.toFinset.card elements.eraseDups Wire.readLongText
          (elements.eraseDups.map Text.repair) .stringSet
          (.elements (elements.eraseDups.map Text.repair))) ∧
    ∀ (encode : EncodeRun) (entries : List Text), encode.order.payload = .map entries →
      (encode.policy = .replace → (∀ entry ∈ entries, .ofChar '=' ∈ entry) →
        ∃ pairs : List (Text × Text),
          entries = pairs.map Payload.entryOf ∧
          (∀ pair ∈ pairs, .ofChar '=' ∉ pair.1) ∧
          encode.GivesBack (pairs.map Prod.fst).toFinset.card (Wire.partsOf (collect pairs))
            Wire.readLongPair ((collect pairs).map (Prod.map Text.repair Text.repair))
            .stringMap
            (.entries ((collect pairs).map (Prod.map Text.repair Text.repair)))) ∧
      ((∃ entry ∈ entries, .ofChar '=' ∉ entry) →
        ∃ front bad later, entries = front ++ bad :: later ∧
          (∀ entry ∈ front, .ofChar '=' ∈ entry) ∧ .ofChar '=' ∉ bad ∧
          encode.RefusesEntry bad) := by
  refine ⟨orders_collection, fun encode elements replaces payload =>
    EncodeRun.givesBack_of_set replaces payload, ?_⟩
  intro encode entries payload
  constructor
  · intro replaces sign
    rcases Payload.exists_map_entryOf sign with ⟨pairs, rfl, plain⟩
    exact ⟨pairs, rfl, plain, EncodeRun.givesBack_of_map replaces plain payload⟩
  · rintro ⟨entry, mem, plain⟩
    have unsigned : ¬∀ entry ∈ entries, .ofChar '=' ∈ entry := fun sign => plain (sign entry mem)
    rcases exists_first_without unsigned with ⟨front, bad, later, rfl, sign, without⟩
    exact ⟨front, bad, later, rfl, sign, without,
      EncodeRun.refusesEntry_of_malformed sign without payload⟩

/-- A run that shows the elements of a set. -/
def setRun (texts : List Text) : EncodeRun :=
  { shownRun with
    arguments := ["encode", "set", "--"].map Text.ofString ++ texts
    invocation := ⟨none, .encode, ["set", "--"].map Text.ofString ++ texts⟩
    order := ⟨.set texts, none, Text.ofString " "⟩
    read := by rfl
    topic := rfl
    ordered := by rfl
    configured := shownRun.configured }

/-- A run that shows the entries of a map. -/
def mapRun (texts : List Text) : EncodeRun :=
  { shownRun with
    arguments := ["encode", "map", "--"].map Text.ofString ++ texts
    invocation := ⟨none, .encode, ["map", "--"].map Text.ofString ++ texts⟩
    order := ⟨.map texts, none, Text.ofString " "⟩
    read := by rfl
    topic := rfl
    ordered := by rfl
    configured := shownRun.configured }

/-- An element that is given twice, a key that is given twice, and an entry without a key. -/
theorem collections_read_back_repeated :
    (∃ bytes, (setRun (["b", "a", "b"].map Text.ofString)).Gives bytes ∧
      Wire.readTallied Wire.readLongText bytes
        = .ok ((2, ["b", "a"].map Text.ofString), [])) ∧
    (∃ bytes, (mapRun (["=x", "k=1=2", "k=3"].map Text.ofString)).Gives bytes ∧
      Wire.readTallied Wire.readLongPair bytes
        = .ok ((2, [([], Text.ofString "x"),
            (Text.ofString "k", Text.ofString "3")]), [])) ∧
    (mapRun (["k=1", "b", "c"].map Text.ofString)).RefusesEntry (Text.ofString "b") := by
  refine ⟨?_, ?_, ?_⟩
  · have back := collections_read_back.2.1 (setRun (["b", "a", "b"].map Text.ofString)) _ rfl rfl
    rcases back.gives (by decide) with ⟨bytes, gives, found, -⟩
    exact ⟨bytes, gives, found⟩
  · rcases (collections_read_back.2.2 (mapRun (["=x", "k=1=2", "k=3"].map Text.ofString)) _ rfl).1
      rfl (by decide) with ⟨pairs, same, plain, back⟩
    -- an entry is cut in one way, and so the pairs are known
    have split := Payload.mapM_splitEntry plain
    rw [← same] at split
    obtain rfl : pairs = [([], Text.ofString "x"), (Text.ofString "k", Text.ofString "1=2"),
        (Text.ofString "k", Text.ofString "3")] := Except.ok.inj (split.symm.trans (by rfl))
    rcases back.gives (by decide) with ⟨bytes, gives, found, -⟩
    exact ⟨bytes, gives, found⟩
  · rcases (collections_read_back.2.2 (mapRun (["k=1", "b", "c"].map Text.ofString)) _ rfl).2
      (by decide) with ⟨front, bad, later, same, sign, plain, refuses⟩
    have malformed := @Payload.request_of_malformed front later bad sign plain
    rw [← same] at malformed
    obtain rfl : bad = Text.ofString "b" := by
      cases malformed.symm.trans (by rfl : _ = .error (.malformedEntry (Text.ofString "b")))
      rfl
    exact refuses

end CommandLine

end IndexWire
