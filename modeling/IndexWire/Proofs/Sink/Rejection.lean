import IndexWire.Proofs.Sink.Copy

/-!
# What is rejected

Which requests a sink accepts, said of their values alone, and what a rejected one leaves behind.
Nothing is written before a request is rejected, with one exception: the texts of a map or a set are
encoded one after another, and so one that cannot be written comes after the count of the entries
and the texts before it.

A call fails for no other reason on a destination that takes all pieces, and a copy from a source
that holds enough bytes does not fail unless its count is negative.
-/

namespace IndexWire

/-- Whether a text can be written: `strict` takes no surrogates, and a length has 32 bits. -/
def Text.IsWritable (policy : SurrogatePolicy) (content : Text) : Prop :=
  (policy = .strict → content.IsClean) ∧ (Utf8.replaced content).length < 2 ^ 32

/-- Whether a value is a text that can be written. -/
def Value.IsWritable (policy : SurrogatePolicy) (value : Value) : Prop :=
  ∃ content, value = .text content ∧ content.IsWritable policy

namespace Request

/-- Whether a sink accepts a request. -/
def Accepted (policy : SurrogatePolicy) : Request → Prop
  | byte _ => True
  | bytes data offset length =>
      0 ≤ offset ∧ 0 ≤ length.getD (data.length - offset) ∧
        offset + length.getD (data.length - offset) ≤ data.length
  | int16 value => -2 ^ 15 ≤ value ∧ value < 2 ^ 16
  | int32 value | vint value | zint32 value => -2 ^ 31 ≤ value ∧ value < 2 ^ 32
  | int64 value | zint64 value => -2 ^ 63 ≤ value ∧ value < 2 ^ 64
  | vlong value => 0 ≤ value ∧ value < 2 ^ 63
  | string value => value.IsWritable policy
  | stringMap entries =>
      entries.length < 2 ^ 32 ∧
        ∀ entry ∈ entries, entry.1.IsWritable policy ∧ entry.2.IsWritable policy
  | stringSet value =>
      ∃ elements, value.elements? = some elements ∧ elements.length < 2 ^ 32 ∧
        ∀ element ∈ elements, element.IsWritable policy

/--
A map or a set with a count of entries, all of whose parts are texts: these, in the order in which
they are written.
-/
def Lists (count : Nat) (texts : List Text) : Request → Prop
  | stringMap entries =>
      entries.length = count ∧
        (entries.flatMap fun entry => [entry.1, entry.2]) = texts.map Value.text
  | stringSet value => texts.length = count ∧ value.elements? = some (texts.map Value.text)
  | _ => False

/--
A map or a set that breaks off: its entries are texts and can be counted, but after those that are
written comes one that cannot be.
-/
structure BreaksOff (policy : SurrogatePolicy) (count : Nat) (written : List Text) (bad : Text)
    (request : Request) : Prop where
  lists : ∃ later, request.Lists count (written ++ bad :: later)
  counted : count < 2 ^ 32
  writable : ∀ content ∈ written, content.IsWritable policy
  unwritable : ¬bad.IsWritable policy

/-- The requests that write a count, and then texts. -/
def parts (count : Nat) (texts : List Text) : List Request :=
  .int32 count :: texts.map fun content => .string (.text content)

end Request

/-- Where not all items are as they should be, there is a first one that is not. -/
theorem exists_first_without {α : Type} {holds : α → Prop} {items : List α}
    (some : ¬∀ item ∈ items, holds item) :
    ∃ front item back, items = front ++ item :: back ∧ (∀ each ∈ front, holds each) ∧
      ¬holds item := by
  classical
  have found : (items.find? fun item => ¬holds item).isSome := by
    simpa using some
  rcases Option.isSome_iff_exists.mp found with ⟨item, first⟩
  rcases List.find?_eq_some_iff_append.mp first with ⟨without, front, back, parts, before⟩
  exact ⟨front, item, back, parts, fun each mem => by simpa using before each mem,
    by simpa using without⟩

namespace Plan

variable {policy : SurrogatePolicy}

theorem text_of_clean {content : Text} (clean : policy = .strict → content.IsClean) :
    text policy content = text .replace content := by
  cases policy with
  | replace => rfl
  | strict => exact text_strict_of_isClean (clean rfl)

theorem fault_text_eq_none_iff (content : Text) :
    (text policy content).fault = none ↔ content.IsWritable policy := by
  constructor
  · intro accepted
    have clean : policy = .strict → content.IsClean := by
      rintro rfl
      by_contra unclean
      rcases text_strict_of_not_isClean unclean with ⟨run, refusal⟩
      rw [refusal] at accepted
      exact Option.some_ne_none _ accepted
    rw [text_of_clean clean] at accepted
    exact ⟨clean, (fault_text_replace_eq_none_iff content).mp accepted⟩
  · rintro ⟨clean, small⟩
    rw [text_of_clean clean]
    exact (fault_text_replace_eq_none_iff content).mpr small

theorem fault_string_eq_none_iff (value : Value) :
    (string policy value).fault = none ↔ value.IsWritable policy := by
  constructor
  · intro accepted
    rcases exists_text_of_string accepted with ⟨content, rfl⟩
    exact ⟨content, rfl, (fault_text_eq_none_iff content).mp accepted⟩
  · rintro ⟨content, rfl, writable⟩
    exact (fault_text_eq_none_iff content).mpr writable

/-- Whether a plan has no pieces if it is refused. -/
def AllOrNothing (plan : Plan) : Prop := plan.fault ≠ none → plan.pieces = []

theorem allOrNothing_refused (fault : Fault) : (refused fault).AllOrNothing := fun _ => rfl

/-- Bytes that are written only if a value is as it has to be. -/
theorem allOrNothing_guarded (guard : Prop) [Decidable guard] (bytes : Bytes) (fault : Fault) :
    (if guard then range bytes else refused fault).AllOrNothing := by
  split
  · exact fun refused => absurd (fault_range bytes) refused
  · exact allOrNothing_refused fault

theorem allOrNothing_vint (value : Int) : (vint value).AllOrNothing :=
  allOrNothing_guarded _ _ _

theorem AllOrNothing.andThen {first second : Plan} (whole : first.AllOrNothing)
    (accepted : second.fault = none) : (first.andThen second).AllOrNothing := by
  intro refused
  cases outcome : first.fault with
  | none => simp [Plan.andThen, outcome, accepted] at refused
  | some fault =>
      simp only [Plan.andThen, outcome]
      exact whole (by rw [outcome]; exact Option.some_ne_none fault)

theorem allOrNothing_text (policy : SurrogatePolicy) (content : Text) :
    (text policy content).AllOrNothing := by
  unfold text
  split
  · exact allOrNothing_refused _
  · exact (allOrNothing_vint _).andThen (fault_range _)

theorem allOrNothing_string (policy : SurrogatePolicy) (value : Value) :
    (string policy value).AllOrNothing := by
  unfold string
  split
  · exact allOrNothing_text policy _
  · exact allOrNothing_refused _

/-- A plan that is refused ends the plans in order with its own pieces and its own fault. -/
theorem inOrder_append_cons {accepted : List Plan} {bad : Plan} (later : List Plan)
    (each : ∀ plan ∈ accepted, plan.fault = none) (refused : bad.fault ≠ none) :
    inOrder (accepted ++ bad :: later)
      = ⟨accepted.flatMap Plan.pieces ++ bad.pieces, bad.fault⟩ := by
  rcases Option.ne_none_iff_exists'.mp refused with ⟨fault, found⟩
  induction accepted with
  | nil =>
      change bad.andThen (inOrder later) = _
      simp only [andThen, found]
      exact congrArg (Plan.mk bad.pieces) found
  | cons plan rest ih =>
      rw [List.forall_mem_cons] at each
      change plan.andThen (inOrder (rest ++ bad :: later)) = _
      rw [ih each.2, andThen, each.1, List.flatMap_cons, List.append_assoc]

theorem elementFault?_eq_none_iff (value : Value) :
    elementFault? value = none ↔ ∃ content, value = .text content := by
  cases value <;> simp [elementFault?]

theorem entryFault?_eq_none_iff (entry : Value × Value) :
    entryFault? entry = none ↔
      (∃ content, entry.1 = .text content) ∧ ∃ content, entry.2 = .text content := by
  rcases entry with ⟨key, value⟩
  cases key <;> cases value <;> simp [entryFault?]

theorem exists_map_text {values : List Value}
    (each : ∀ value ∈ values, ∃ content, value = .text content) :
    ∃ texts : List Text, values = texts.map Value.text := by
  induction values with
  | nil => exact ⟨[], rfl⟩
  | cons value rest ih =>
      rw [List.forall_mem_cons] at each
      rcases each.1 with ⟨content, rfl⟩
      rcases ih each.2 with ⟨texts, rfl⟩
      exact ⟨content :: texts, rfl⟩

end Plan

namespace Request

variable {policy : SurrogatePolicy} {count : Nat} {texts : List Text}

theorem plan_of_lists {request : Request} (lists : request.Lists count texts) :
    request.plan policy = .counted policy count (texts.map Value.text) := by
  cases request with
  | stringMap entries =>
      rcases lists with ⟨rfl, same⟩
      have good : entries.findSome? Plan.entryFault? = none := by
        rw [List.findSome?_eq_none_iff]
        intro entry mem
        have parts : ∀ value ∈ [entry.1, entry.2], ∃ content, value = Value.text content := by
          intro value part
          have listed : value ∈ entries.flatMap fun entry => [entry.1, entry.2] :=
            List.mem_flatMap.mpr ⟨entry, mem, part⟩
          rw [same] at listed
          rcases List.mem_map.mp listed with ⟨content, -, rfl⟩
          exact ⟨content, rfl⟩
        exact (Plan.entryFault?_eq_none_iff entry).mpr ⟨parts _ (by simp), parts _ (by simp)⟩
      simp only [plan, Plan.stringMap, good, same]
  | stringSet value =>
      rcases lists with ⟨rfl, same⟩
      have good : (texts.map Value.text).findSome? Plan.elementFault? = none := by
        rw [List.findSome?_eq_none_iff]
        intro element mem
        rcases List.mem_map.mp mem with ⟨content, -, rfl⟩
        rfl
      simp only [plan, Plan.stringSet, same, good, List.length_map]
  | _ => exact False.elim lists

/-- A request is a map or a set of texts, or it is written as a whole or not at all. -/
theorem lists_or_allOrNothing (policy : SurrogatePolicy) (request : Request) :
    (∃ count texts, request.Lists count texts) ∨ (request.plan policy).AllOrNothing := by
  cases request with
  | stringMap entries =>
      cases found : entries.findSome? Plan.entryFault? with
      | some fault =>
          right
          simp only [plan, Plan.stringMap, found]
          exact Plan.allOrNothing_refused fault
      | none =>
          left
          rw [List.findSome?_eq_none_iff] at found
          have each : ∀ value ∈ entries.flatMap fun entry => [entry.1, entry.2],
              ∃ content, value = Value.text content := by
            intro value mem
            rcases List.mem_flatMap.mp mem with ⟨entry, inside, part⟩
            have both := (Plan.entryFault?_eq_none_iff entry).mp (found entry inside)
            simp only [List.mem_cons, List.not_mem_nil, or_false] at part
            rcases part with rfl | rfl
            · exact both.1
            · exact both.2
          rcases Plan.exists_map_text each with ⟨texts, same⟩
          exact ⟨entries.length, texts, rfl, same⟩
  | stringSet value =>
      cases listed : value.elements? with
      | none =>
          right
          simp only [plan, Plan.stringSet, listed]
          exact Plan.allOrNothing_refused _
      | some elements =>
          cases found : elements.findSome? Plan.elementFault? with
          | some fault =>
              right
              simp only [plan, Plan.stringSet, listed, found]
              exact Plan.allOrNothing_refused fault
          | none =>
              left
              rw [List.findSome?_eq_none_iff] at found
              rcases Plan.exists_map_text fun element mem =>
                (Plan.elementFault?_eq_none_iff element).mp (found element mem) with ⟨texts, rfl⟩
              exact ⟨texts.length, texts, rfl, listed⟩
  | byte value => exact Or.inr fun refused => absurd rfl refused
  | bytes data offset length => exact Or.inr fun refused => Plan.pieces_of_slice_fault refused
  | zint32 value =>
      right
      simp only [plan, Plan.zint32]
      split
      · exact Plan.allOrNothing_vint _
      · exact Plan.allOrNothing_refused _
  | string value => exact Or.inr (Plan.allOrNothing_string policy value)
  | _ => exact Or.inr (Plan.allOrNothing_guarded _ _ _)

theorem fault_stringMap_eq_none_iff (entries : List (Value × Value)) :
    (Plan.stringMap policy entries).fault = none ↔
      (stringMap entries).Accepted policy := by
  constructor
  · intro accepted
    rw [Plan.stringMap_of_accepted accepted, Plan.fault_counted_eq_none_iff,
      List.forall_mem_flatMap] at accepted
    refine ⟨accepted.1, fun entry mem => ⟨?_, ?_⟩⟩
    · exact (Plan.fault_string_eq_none_iff _).mp (accepted.2 entry mem entry.1 (by simp))
    · exact (Plan.fault_string_eq_none_iff _).mp (accepted.2 entry mem entry.2 (by simp))
  · rintro ⟨counted, writable⟩
    have each : ∀ value ∈ entries.flatMap fun entry => [entry.1, entry.2],
        value.IsWritable policy := by
      rw [List.forall_mem_flatMap]
      intro entry mem
      simpa using writable entry mem
    rcases Plan.exists_map_text fun value mem => (each value mem).imp fun content => And.left with
        ⟨texts, same⟩
    have lists : (stringMap entries).Lists entries.length texts := ⟨rfl, same⟩
    have planned : Plan.stringMap policy entries = _ := plan_of_lists lists
    rw [planned, Plan.fault_counted_eq_none_iff, ← same]
    exact ⟨counted, fun value mem => (Plan.fault_string_eq_none_iff value).mpr (each value mem)⟩

theorem fault_stringSet_eq_none_iff (value : Value) :
    (Plan.stringSet policy value).fault = none ↔ (stringSet value).Accepted policy := by
  constructor
  · intro accepted
    rcases Plan.stringSet_of_accepted accepted with ⟨elements, listed, planned⟩
    rw [planned, Plan.fault_counted_eq_none_iff] at accepted
    refine ⟨elements, listed, accepted.1, fun element mem => ?_⟩
    exact (Plan.fault_string_eq_none_iff element).mp (accepted.2 element mem)
  · rintro ⟨elements, listed, counted, writable⟩
    have each : ∀ element ∈ elements, ∃ content, element = .text content :=
      fun element mem => (writable element mem).imp fun content => And.left
    rcases Plan.exists_map_text each with ⟨texts, rfl⟩
    have lists : (stringSet value).Lists texts.length texts := ⟨rfl, listed⟩
    have planned : Plan.stringSet policy value = _ := plan_of_lists lists
    rw [List.length_map] at counted
    rw [planned, Plan.fault_counted_eq_none_iff]
    exact ⟨counted, fun element mem =>
      (Plan.fault_string_eq_none_iff element).mpr (writable element mem)⟩

/-- A request has no fault exactly when it is accepted. -/
theorem fault_plan_eq_none_iff (policy : SurrogatePolicy) (request : Request) :
    (request.plan policy).fault = none ↔ request.Accepted policy := by
  cases request with
  | byte value => exact ⟨fun _ => trivial, fun _ => rfl⟩
  | bytes data offset length =>
      simp only [plan, Plan.slice, Accepted]
      split
      · rename_i outside
        simp only [Plan.fault_refused, reduceCtorEq, false_iff]
        omega
      · rename_i inside
        simp only [Plan.fault_range, true_iff]
        omega
  | int16 value => exact Plan.fault_word_eq_none_iff 2 value
  | int32 value => exact Plan.fault_word_eq_none_iff 4 value
  | int64 value => exact Plan.fault_word_eq_none_iff 8 value
  | vint value => exact Plan.fault_vint_eq_none_iff value
  | vlong value => exact Plan.fault_vlong_eq_none_iff value
  | zint32 value => exact Plan.fault_zint32_eq_none_iff value
  | zint64 value => exact Plan.fault_zint64_eq_none_iff value
  | string value => exact Plan.fault_string_eq_none_iff value
  | stringMap entries => exact fault_stringMap_eq_none_iff entries
  | stringSet value => exact fault_stringSet_eq_none_iff value

/-- What a map or a set hands over that breaks off: the count, and the texts before the bad one. -/
theorem plan_of_breaksOff {request : Request} {written : List Text} {bad : Text}
    (breaks : request.BreaksOff policy count written bad) :
    request.plan policy
      = ⟨(Plan.word 4 count).pieces ++ written.flatMap fun content =>
          (Plan.text policy content).pieces, (Plan.text policy bad).fault⟩ := by
  rcases breaks.lists with ⟨later, lists⟩
  have fits := (Plan.fits_natCast_iff 32 count).mpr breaks.counted
  have header := (Plan.fault_word_eq_none_iff 4 count).mpr fits
  have refused := mt (Plan.fault_text_eq_none_iff bad).mp breaks.unwritable
  have each : ∀ plan ∈ (written.map Value.text).map (Plan.string policy), plan.fault = none := by
    rw [List.map_map, List.forall_mem_map]
    exact fun content mem => (Plan.fault_text_eq_none_iff content).mpr (breaks.writable content mem)
  have texts : Plan.inOrder (((written ++ bad :: later).map Value.text).map (Plan.string policy))
      = ⟨written.flatMap fun content => (Plan.text policy content).pieces,
          (Plan.text policy bad).fault⟩ := by
    rw [List.map_append, List.map_append, List.map_cons, List.map_cons]
    refine (Plan.inOrder_append_cons _ each refused).trans ?_
    have silent : (Plan.text policy bad).pieces = [] := Plan.allOrNothing_text policy bad refused
    change Plan.mk (_ ++ (Plan.text policy bad).pieces) _ = _
    rw [silent, List.append_nil, List.map_map, List.flatMap_map]
    rfl
  rw [plan_of_lists lists, Plan.counted, texts, Plan.andThen, header]

theorem accepted_parts (counted : count < 2 ^ 32)
    (writable : ∀ content ∈ texts, content.IsWritable policy) :
    ∀ request ∈ parts count texts, (request.plan policy).fault = none := by
  rw [parts, List.forall_mem_cons, List.forall_mem_map]
  constructor
  · have fits := (Plan.fits_natCast_iff 32 count).mpr counted
    exact (Plan.fault_word_eq_none_iff 4 count).mpr fits
  · intro content mem
    exact (Plan.fault_text_eq_none_iff content).mpr (writable content mem)

theorem pieces_parts (policy : SurrogatePolicy) (count : Nat) (texts : List Text) :
    ((parts count texts).flatMap fun request => (request.plan policy).pieces)
      = (Plan.word 4 count).pieces ++ texts.flatMap fun content =>
          (Plan.text policy content).pieces := by
  rw [parts, List.flatMap_cons, List.flatMap_map]
  rfl

/-- A request that is rejected, but does not break off, hands over nothing. -/
theorem pieces_of_rejected {request : Request} (rejected : (request.plan policy).fault ≠ none)
    (whole : ∀ count written bad, ¬request.BreaksOff policy count written bad) :
    (request.plan policy).pieces = [] := by
  rcases lists_or_allOrNothing policy request with ⟨count, texts, lists⟩ | whole
  · by_cases counted : count < 2 ^ 32
    · have some : ¬∀ content ∈ texts, content.IsWritable policy := by
        intro writable
        rw [plan_of_lists lists, ne_eq, Plan.fault_counted_eq_none_iff,
          List.forall_mem_map] at rejected
        exact rejected ⟨counted, fun content mem =>
          (Plan.fault_text_eq_none_iff content).mpr (writable content mem)⟩
      rcases exists_first_without some with ⟨written, bad, later, rfl, writable, unwritable⟩
      exact absurd ⟨⟨later, lists⟩, counted, writable, unwritable⟩ (whole count written bad)
    · have refused : (Plan.word 4 count).fault ≠ none := by
        rw [ne_eq, Plan.fault_word_eq_none_iff, Plan.fits_natCast_iff]
        exact counted
      rcases Option.ne_none_iff_exists'.mp refused with ⟨fault, found⟩
      rw [plan_of_lists lists, Plan.counted, Plan.andThen, found]
      exact Plan.allOrNothing_guarded _ _ _ refused
  · exact whole rejected

end Request

namespace Sink

/-- Accepted requests that are all taken are one delivery. -/
theorem writeAll_of_accepted {policy : SurrogatePolicy} {store : Store} {destination : Destination}
    {requests : List Request} {pieces : List Piece} (scratch : Option Bytes)
    (accepted : ∀ request ∈ requests, (request.plan policy).fault = none)
    (same : (requests.flatMap fun request => (request.plan policy).pieces) = pieces)
    (taken : (destination.deliver store pieces).fault = none) :
    writeAll store ⟨policy, scratch, destination⟩ requests
      = ((destination.deliver store pieces).state.1,
        ⟨policy, scratch, (destination.deliver store pieces).state.2⟩,
        requests.map fun _ => none) := by
  induction requests generalizing store destination pieces with
  | nil =>
      subst same
      rfl
  | cons request rest ih =>
      rw [List.forall_mem_cons] at accepted
      rw [List.flatMap_cons] at same
      subst same
      have first := Destination.fault_deliver_of_append taken
      rw [Destination.deliver_append first] at taken ⊢
      simp only [writeAll, write, carryOut, first, accepted.1, Option.none_or, List.map_cons,
        ih accepted.2 rfl taken]

theorem write_of_breaksOff {store : Store} {sink : Sink} {request : Request} {count : Nat}
    {written : List Text} {bad : Text}
    (taken : (sink.destination.deliver store (request.plan sink.policy).pieces).fault = none)
    (breaks : request.BreaksOff sink.policy count written bad) :
    let kept := sink.writeAll store (Request.parts count written)
    (∀ outcome ∈ kept.2.2, outcome = none) ∧
      (sink.write store request).state = (kept.1, kept.2.1) ∧
        (sink.write store request).fault = (kept.2.1.write kept.1 (.string (.text bad))).fault := by
  rcases sink with ⟨policy, scratch, destination⟩
  have planned := Request.plan_of_breaksOff breaks
  have pieces : ((Request.parts count written).flatMap fun part => (part.plan policy).pieces)
      = (request.plan policy).pieces := by
    rw [Request.pieces_parts, planned]
  have silent : (Request.plan policy (.string (.text bad))).pieces = [] :=
    Plan.allOrNothing_text policy bad (mt (Plan.fault_text_eq_none_iff bad).mp breaks.unwritable)
  have kept := writeAll_of_accepted scratch
    (Request.accepted_parts breaks.counted breaks.writable) pieces taken
  have refused : (request.plan policy).fault
      = (Request.plan policy (.string (.text bad))).fault := by
    rw [planned]
    rfl
  simp [kept, write, carryOut, silent, taken, refused, Destination.deliver]

/--
Where nothing else is a reason to fail, a call fails exactly when what it is given is not accepted.
It has then written nothing, unless it is a map or a set that breaks off at a text: this has written
its count and the texts before the bad one, as the requests for them would, and fails as the request
for the bad one would.
-/
theorem rejected_writes_nothing (store : Store) (sink : Sink) :
    (∀ request : Request,
      (sink.destination.deliver store (request.plan sink.policy).pieces).fault = none →
        let attempt := sink.write store request
        (attempt.fault ≠ none ↔ ¬request.Accepted sink.policy) ∧
        (attempt.fault ≠ none →
          (∀ count written bad, ¬request.BreaksOff sink.policy count written bad) →
            (request.plan sink.policy).pieces = [] ∧ attempt.state = (store, sink)) ∧
        ∀ count written bad, request.BreaksOff sink.policy count written bad →
          let kept := sink.writeAll store (Request.parts count written)
          (∀ outcome ∈ kept.2.2, outcome = none) ∧ attempt.state = (kept.1, kept.2.1) ∧
            attempt.fault = (kept.2.1.write kept.1 (.string (.text bad))).fault) ∧
    ∀ (source : Source) (count : Int), sink.HasBlock →
      sink.destination.Takes store count.toNat → source.Holds store count.toNat →
        let attempt := (Transfer.mk store sink source).copy count
        (attempt.fault ≠ none ↔ count < 0) ∧
          (count < 0 → attempt.state = ⟨store, sink, source⟩) := by
  refine ⟨?_, fun source count block takes holds => Transfer.copy_of_takes store block takes holds⟩
  intro request taken attempt
  have outcome : attempt.fault = (request.plan sink.policy).fault := by
    simp only [attempt, write, carryOut, taken, Option.none_or]
  refine ⟨?_, ?_, ?_⟩
  · rw [outcome]
    exact not_congr (Request.fault_plan_eq_none_iff sink.policy request)
  · intro failed whole
    rw [outcome] at failed
    have nothing := Request.pieces_of_rejected failed whole
    refine ⟨nothing, ?_⟩
    simp only [attempt, write, carryOut, nothing, Destination.deliver]
  · intro count written bad breaks
    exact write_of_breaksOff taken breaks

/-- A set whose second text is a surrogate, and a copy of fewer bytes than none. -/
theorem rejected_writes_nothing_broken_off :
    let sink : Sink := { policy := .strict, destination := .memory {} }
    let first : Text := [⟨97, by decide⟩]
    let second : Text := [⟨0xD800, by decide⟩]
    let request : Request := .stringSet (.list [.text first, .text second])
    let kept := sink.writeAll {} (Request.parts 2 [first])
    (sink.write {} request).fault ≠ none ∧ (sink.write {} request).state = (kept.1, kept.2.1) ∧
      ((Transfer.mk {} sink (.memory (.own []) 0)).copy (-1)).fault ≠ none := by
  intro sink first second request kept
  have unwritable : ¬Text.IsWritable .strict second := fun writable =>
    absurd (writable.1 rfl) (by simp [Text.IsClean, second, CodePoint.isSurrogate])
  have writable : Text.IsWritable .strict first :=
    ⟨fun _ => by simp [Text.IsClean, first, CodePoint.isSurrogate], by decide⟩
  have breaks : request.BreaksOff sink.policy 2 [first] second :=
    ⟨⟨[], rfl, rfl⟩, by decide, by simpa using writable, unwritable⟩
  have rejected : ¬request.Accepted sink.policy := by
    rintro ⟨elements, listed, counted, each⟩
    cases listed
    rcases each (.text second) (by simp) with ⟨content, same, writable⟩
    cases same
    exact unwritable writable
  have taken : (sink.destination.deliver {} (request.plan sink.policy).pieces).fault = none := by
    rw [Destination.deliver_memory]
  have outcome := (rejected_writes_nothing {} sink).1 request taken
  have whole : sink.destination.IsWhole {} := trivial
  have copied := (rejected_writes_nothing {} sink).2 (.memory (.own []) 0) (-1)
    (fun bytes none => by cases none) (Destination.takes_of_room whole trivial)
    ⟨by decide, by decide⟩
  exact ⟨outcome.1.mpr rejected, (outcome.2.2 2 [first] second breaks).2.1,
    copied.1.mpr (by decide)⟩

end Sink

end IndexWire
