import IndexWire.Proofs.Number
import IndexWire.Proofs.Text.Decoding
import IndexWire.Sink.Request

/-!
# Plans

What the plan of a request consists of: when it has no fault, which bytes its pieces have then, and
what the plan of a request of several parts owes to the plans of the parts.
-/

namespace IndexWire

namespace Plan

@[simp]
theorem fault_range (bytes : Bytes) : (range bytes).fault = none := rfl

@[simp]
theorem bytes_range (bytes : Bytes) : (range bytes).bytes = bytes := by
  cases bytes <;> simp [range, Plan.bytes, Piece.bytes]

theorem pieces_range {bytes : Bytes} (nonempty : bytes ≠ []) :
    (range bytes).pieces = [.range bytes] := by
  simp [range, nonempty]

@[simp]
theorem fault_refused (fault : Fault) : (refused fault).fault = some fault := rfl

theorem fault_andThen_eq_none_iff (first second : Plan) :
    (first.andThen second).fault = none ↔ first.fault = none ∧ second.fault = none := by
  cases refused : first.fault <;> simp [andThen, refused]

theorem bytes_andThen {first : Plan} (accepted : first.fault = none) (second : Plan) :
    (first.andThen second).bytes = first.bytes ++ second.bytes := by
  simp [andThen, accepted, Plan.bytes]

theorem fault_inOrder_eq_none_iff (plans : List Plan) :
    (inOrder plans).fault = none ↔ ∀ plan ∈ plans, plan.fault = none := by
  induction plans with
  | nil => simp [inOrder]
  | cons plan rest ih =>
      change (plan.andThen (inOrder rest)).fault = none ↔ _
      rw [fault_andThen_eq_none_iff, ih, List.forall_mem_cons]

theorem bytes_inOrder {plans : List Plan} (accepted : ∀ plan ∈ plans, plan.fault = none) :
    (inOrder plans).bytes = plans.flatMap Plan.bytes := by
  induction plans with
  | nil => rfl
  | cons plan rest ih =>
      rw [List.forall_mem_cons] at accepted
      change (plan.andThen (inOrder rest)).bytes = _
      rw [bytes_andThen accepted.1, ih accepted.2, List.flatMap_cons]

theorem fault_word_eq_none_iff (count : Nat) (value : Int) :
    (word count value).fault = none ↔ Word.Fits (8 * count) value := by
  unfold word
  split <;> simp_all

theorem bytes_word {count : Nat} {value : Int} (fits : Word.Fits (8 * count) value) :
    (word count value).bytes = FixedWidth.encode count (Word.unsigned (8 * count) value) := by
  rw [word, if_pos fits, bytes_range]

theorem fault_vint_eq_none_iff (value : Int) :
    (vint value).fault = none ↔ Word.Fits 32 value := by
  unfold vint
  split <;> simp_all

theorem bytes_vint {value : Int} (fits : Word.Fits 32 value) :
    (vint value).bytes = Varint.encode (Word.unsigned 32 value) := by
  rw [vint, if_pos fits, bytes_range]

theorem fits_natCast_iff (width number : Nat) :
    Word.Fits width number ↔ number < 2 ^ width := by
  have negative : -(Nat.pow 2 (width - 1) : Int) ≤ number := by omega
  simp only [Word.Fits, negative, true_and]
  exact Int.ofNat_lt

theorem bytes_unsignedLong_natCast {number : Nat} (small : number < 2 ^ 64) :
    (unsignedLong number).bytes = Varint.encode number := by
  rw [unsignedLong, bytes_range, Word.unsigned_of_lt small]

theorem fault_vlong_eq_none_iff (value : Int) :
    (vlong value).fault = none ↔ 0 ≤ value ∧ value < 2 ^ 63 := by
  unfold vlong
  split <;> simp_all [unsignedLong]

theorem bytes_vlong_natCast {number : Nat} (small : number < 2 ^ 63) :
    (vlong number).bytes = Varint.encode number := by
  have accepted : 0 ≤ (number : Int) ∧ (number : Int) < Nat.pow 2 63 :=
    ⟨Int.natCast_nonneg number, Int.ofNat_lt.mpr small⟩
  rw [vlong, if_pos accepted, bytes_unsignedLong_natCast (by omega)]

theorem fault_zint32_eq_none_iff (value : Int) :
    (zint32 value).fault = none ↔ Word.Fits 32 value := by
  have fits := (fits_natCast_iff 32 (Word.zigzag 32 value)).mpr (Word.zigzag_lt 32 value)
  unfold zint32
  split <;> simp_all [fault_vint_eq_none_iff]

theorem bytes_zint32 {value : Int} (fits : Word.Fits 32 value) :
    (zint32 value).bytes = Varint.encode (Word.zigzag 32 value) := by
  have small := Word.zigzag_lt 32 value
  rw [zint32, if_pos fits, bytes_vint ((fits_natCast_iff 32 _).mpr small),
    Word.unsigned_of_lt small]

theorem fault_zint64_eq_none_iff (value : Int) :
    (zint64 value).fault = none ↔ Word.Fits 64 value := by
  unfold zint64
  split <;> simp_all [unsignedLong]

theorem bytes_zint64 {value : Int} (fits : Word.Fits 64 value) :
    (zint64 value).bytes = Varint.encode (Word.zigzag 64 value) := by
  rw [zint64, if_pos fits, bytes_unsignedLong_natCast (Word.zigzag_lt 64 value)]

theorem text_replace (content : Text) :
    text .replace content
      = (vint (Utf8.replaced content).length).andThen (range (Utf8.replaced content)) := rfl

theorem fault_text_replace_eq_none_iff (content : Text) :
    (text .replace content).fault = none ↔ (Utf8.replaced content).length < 2 ^ 32 := by
  rw [text_replace, fault_andThen_eq_none_iff, fault_vint_eq_none_iff, fits_natCast_iff]
  simp

theorem bytes_text_replace {content : Text} (small : (Utf8.replaced content).length < 2 ^ 32) :
    (text .replace content).bytes
      = Varint.encode (Utf8.replaced content).length ++ Utf8.replaced content := by
  have fits := (fits_natCast_iff 32 (Utf8.replaced content).length).mpr small
  rw [text_replace, bytes_andThen ((fault_vint_eq_none_iff _).mpr fits), bytes_vint fits,
    bytes_range, Word.unsigned_of_lt small]

theorem exists_text_of_string {policy : SurrogatePolicy} {value : Value}
    (accepted : (string policy value).fault = none) : ∃ content, value = .text content := by
  cases value with
  | text content => exact ⟨content, rfl⟩
  | _ => simp [string] at accepted

theorem fault_counted_eq_none_iff (policy : SurrogatePolicy) (count : Nat) (texts : List Value) :
    (counted policy count texts).fault = none ↔
      count < 2 ^ 32 ∧ ∀ value ∈ texts, (string policy value).fault = none := by
  rw [counted, fault_andThen_eq_none_iff, fault_word_eq_none_iff, fits_natCast_iff,
    fault_inOrder_eq_none_iff, List.forall_mem_map]

theorem bytes_counted {policy : SurrogatePolicy} {count : Nat} {texts : List Value}
    (accepted : (counted policy count texts).fault = none) :
    (counted policy count texts).bytes
      = FixedWidth.encode 4 (Word.unsigned 32 count)
        ++ texts.flatMap fun value => (string policy value).bytes := by
  rw [fault_counted_eq_none_iff] at accepted
  have fits : Word.Fits (8 * 4) count := (fits_natCast_iff 32 count).mpr accepted.1
  have each : ∀ plan ∈ texts.map (string policy), plan.fault = none :=
    List.forall_mem_map.mpr accepted.2
  rw [counted, bytes_andThen ((fault_word_eq_none_iff 4 count).mpr fits), bytes_word fits,
    bytes_inOrder each, List.flatMap_map]

theorem stringMap_of_accepted {policy : SurrogatePolicy} {entries : List (Value × Value)}
    (accepted : (stringMap policy entries).fault = none) :
    stringMap policy entries
      = counted policy entries.length (entries.flatMap fun entry => [entry.1, entry.2]) := by
  unfold stringMap at accepted ⊢
  split at accepted
  · simp at accepted
  · rfl

theorem stringSet_of_accepted {policy : SurrogatePolicy} {value : Value}
    (accepted : (stringSet policy value).fault = none) :
    ∃ elements, value.elements? = some elements ∧
      stringSet policy value = counted policy elements.length elements := by
  unfold stringSet at accepted ⊢
  split at accepted
  · simp at accepted
  · rename_i elements found
    split at accepted
    · simp at accepted
    · exact ⟨elements, found, rfl⟩

theorem slice_of_accepted {data : Bytes} {offset : Int} {length : Option Int}
    (accepted : (slice data offset length).fault = none) :
    ∃ start count : Nat, offset = start ∧ length.getD (data.length - offset) = count ∧
      start + count ≤ data.length ∧
        slice data offset length = range ((data.drop start).take count) := by
  unfold slice at accepted ⊢
  simp only at accepted ⊢
  split at accepted
  · simp at accepted
  · rename_i inside
    rcases Int.eq_ofNat_of_zero_le (show 0 ≤ offset by omega) with ⟨start, rfl⟩
    rcases Int.eq_ofNat_of_zero_le (show 0 ≤ length.getD (data.length - start) by omega) with
        ⟨count, size⟩
    rw [size] at inside ⊢
    refine ⟨start, count, rfl, rfl, by omega, ?_⟩
    rw [if_neg inside]
    exact congrArg range (Bytes.slice_of_le (by omega))

theorem pieces_of_slice_fault {data : Bytes} {offset : Int} {length : Option Int}
    (refused : (slice data offset length).fault ≠ none) :
    (slice data offset length).pieces = [] := by
  unfold slice at refused ⊢
  simp only at refused ⊢
  split at refused
  · rename_i outside
    rw [if_pos outside]
    rfl
  · exact absurd (fault_range _) refused

theorem slice_of_le {data : Bytes} {count : Nat} (inside : count ≤ data.length) :
    slice data 0 (some count) = range (data.take count) := by
  have read : data.slice 0 (0 + count) = data.take count := by
    have law : data.slice (0 : Nat) (0 + count : Nat) = (data.drop 0).take count :=
      Bytes.slice_of_le (by omega)
    simpa using law
  simp only [slice, Option.getD_some]
  rw [if_neg (by omega), read]

/-- Plans that agree with a whole one, unless they are refused before its last piece. -/
inductive Cuts (whole : Plan) : Plan → Prop where
  | same : Cuts whole whole
  | refused {pieces lost : List Piece} (fault : Fault) (rest : whole.pieces = pieces ++ lost)
      (missing : lost ≠ []) : Cuts whole ⟨pieces, some fault⟩

theorem Cuts.andThen {first second whole later : Plan} (accepted : whole.fault = none)
    (one : Cuts whole first) (two : Cuts later second) :
    Cuts (whole.andThen later) (first.andThen second) := by
  have joined : (whole.andThen later).pieces = whole.pieces ++ later.pieces := by
    simp only [Plan.andThen, accepted]
  cases one with
  | same =>
      cases two with
      | same => exact .same
      | refused fault rest missing =>
          simp only [Plan.andThen, accepted] at joined ⊢
          refine .refused fault ?_ missing
          rw [rest, List.append_assoc]
  | refused fault rest missing =>
      have left := List.append_ne_nil_of_left_ne_nil missing later.pieces
      refine .refused fault ?_ left
      rw [joined, rest, List.append_assoc]

theorem cuts_inOrder {ι : Type} {whole cut : ι → Plan} {items : List ι}
    (accepted : ∀ item ∈ items, (whole item).fault = none)
    (each : ∀ item ∈ items, Cuts (whole item) (cut item)) :
    Cuts (inOrder (items.map whole)) (inOrder (items.map cut)) := by
  induction items with
  | nil => exact .same
  | cons item rest ih =>
      rw [List.forall_mem_cons] at accepted each
      exact each.1.andThen accepted.1 (ih accepted.2 each.2)

/-- A text without surrogates is encoded alike under both policies. -/
theorem text_strict_of_isClean {content : Text} (clean : content.IsClean) :
    text .strict content = text .replace content := by
  simp only [text, encodeText, Utf8.encode_strict_of_isClean clean]
  rfl

theorem text_strict_of_not_isClean {content : Text} (unclean : ¬content.IsClean) :
    ∃ run, text .strict content = refused (.unencodable run) := by
  rcases Option.ne_none_iff_exists'.mp
    (mt (Text.firstRun?_eq_none_iff content).mp unclean) with ⟨run, found⟩
  refine ⟨run, ?_⟩
  simp only [text, encodeText, Utf8.encode, found]
  rfl

/-- A text is encoded alike under both policies, unless `strict` refuses it. -/
theorem cuts_text (policy : SurrogatePolicy) {content : Text}
    (accepted : (text .replace content).fault = none) :
    Cuts (text .replace content) (text policy content) := by
  cases policy with
  | replace => exact .same
  | strict =>
      by_cases clean : content.IsClean
      · rw [text_strict_of_isClean clean]
        exact .same
      · rcases text_strict_of_not_isClean clean with ⟨run, refusal⟩
        have small := (fault_text_replace_eq_none_iff content).mp accepted
        have missing : (text .replace content).pieces ≠ [] := by
          intro none
          have empty : (text .replace content).bytes = [] := by rw [Plan.bytes, none]; rfl
          rw [bytes_text_replace small] at empty
          exact Varint.encode_ne_nil _ (List.append_eq_nil_iff.mp empty).1
        rw [refusal]
        exact .refused _ (List.nil_append _).symm missing

theorem cuts_string (policy : SurrogatePolicy) {value : Value}
    (accepted : (string .replace value).fault = none) :
    Cuts (string .replace value) (string policy value) := by
  rcases exists_text_of_string accepted with ⟨content, rfl⟩
  simp only [string] at accepted ⊢
  exact cuts_text policy accepted

theorem cuts_counted (policy : SurrogatePolicy) {count : Nat} {texts : List Value}
    (accepted : (counted .replace count texts).fault = none) :
    Cuts (counted .replace count texts) (counted policy count texts) := by
  rcases (fault_andThen_eq_none_iff _ _).mp accepted with ⟨header, each⟩
  have strings := ((fault_counted_eq_none_iff _ _ _).mp accepted).2
  have cut := cuts_inOrder strings fun value mem => cuts_string policy (strings value mem)
  exact Cuts.same.andThen header cut

/-- No piece of a plan is without bytes. -/
def IsFilled (plan : Plan) : Prop := ∀ piece ∈ plan.pieces, piece.bytes ≠ []

theorem bytes_ne_nil {plan : Plan} (filled : plan.IsFilled) (nonempty : plan.pieces ≠ []) :
    plan.bytes ≠ [] := by
  rcases List.exists_mem_of_ne_nil plan.pieces nonempty with ⟨piece, mem⟩
  intro none
  exact filled piece mem (List.flatMap_eq_nil_iff.mp none piece mem)

/-- A plan that is refused is so for a value. -/
def FaultsValues (plan : Plan) : Prop :=
  ∀ fault ∈ plan.fault, fault.category = .value ∨ fault.category = .kind

/-- How the plans of requests are made up of bytes and of refusals. -/
inductive Built : Plan → Prop where
  | byte (value : UInt8) : Built { pieces := [.byte value] }
  | range (bytes : Bytes) : Built (range bytes)
  | refused {fault : Fault} (category : fault.category = .value ∨ fault.category = .kind) :
      Built (refused fault)
  | andThen {first second : Plan} (one : Built first) (two : Built second) :
      Built (first.andThen second)

theorem Built.isFilled {plan : Plan} (built : plan.Built) : plan.IsFilled := by
  induction built with
  | byte value => simp [IsFilled, Piece.bytes]
  | range bytes => cases bytes <;> simp [IsFilled, Plan.range, Piece.bytes]
  | refused category => simp [IsFilled, Plan.refused]
  | andThen built later one two =>
      unfold Plan.andThen
      split
      · exact one
      · intro piece mem
        rcases List.mem_append.mp mem with front | back
        · exact one piece front
        · exact two piece back

theorem Built.faultsValues {plan : Plan} (built : plan.Built) : plan.FaultsValues := by
  induction built with
  | byte value => simp [FaultsValues]
  | range bytes => simp [FaultsValues]
  | refused category => simpa [FaultsValues] using category
  | andThen built later one two =>
      unfold Plan.andThen
      split
      · exact one
      · exact two

theorem built_inOrder {plans : List Plan} (each : ∀ plan ∈ plans, plan.Built) :
    (inOrder plans).Built := by
  induction plans with
  | nil => exact .range []
  | cons plan rest ih =>
      rw [List.forall_mem_cons] at each
      exact each.1.andThen (ih each.2)

/-- A value that is written if it is as it has to be. -/
theorem built_guarded {guard : Prop} [Decidable guard] {plan : Plan} (built : plan.Built)
    {fault : Fault} (category : fault.category = .value ∨ fault.category = .kind) :
    (if guard then plan else refused fault).Built := by
  split
  · exact built
  · exact .refused category

theorem built_word (count : Nat) (value : Int) : (word count value).Built :=
  built_guarded (.range _) (Or.inl rfl)

theorem built_vint (value : Int) : (vint value).Built := built_guarded (.range _) (Or.inl rfl)

theorem built_string (policy : SurrogatePolicy) (value : Value) : (string policy value).Built := by
  unfold string
  split
  · unfold text encodeText
    cases Utf8.encode policy _ with
    | error run => exact .refused (Or.inl rfl)
    | ok data => exact (built_vint _).andThen (.range _)
  · exact .refused (Or.inr rfl)

theorem built_counted (policy : SurrogatePolicy) (count : Nat) (texts : List Value) :
    (counted policy count texts).Built := by
  refine (built_word 4 count).andThen (built_inOrder ?_)
  rw [List.forall_mem_map]
  exact fun value mem => built_string policy value

theorem built_stringMap (policy : SurrogatePolicy) (entries : List (Value × Value)) :
    (stringMap policy entries).Built := by
  unfold stringMap
  split
  · rename_i fault found
    rcases List.exists_of_findSome?_eq_some found with ⟨entry, -, refused⟩
    have kind : fault.category = .kind := by
      unfold entryFault? at refused
      split at refused
      · cases refused
      · cases refused
        rfl
    exact .refused (Or.inr kind)
  · exact built_counted policy _ _

theorem built_stringSet (policy : SurrogatePolicy) (value : Value) :
    (stringSet policy value).Built := by
  unfold stringSet
  split
  · exact .refused (Or.inr rfl)
  · split
    · rename_i fault found
      rcases List.exists_of_findSome?_eq_some found with ⟨element, -, refused⟩
      have kind : fault.category = .kind := by
        unfold elementFault? at refused
        split at refused
        · cases refused
        · cases refused
          rfl
      exact .refused (Or.inr kind)
    · exact built_counted policy _ _

end Plan

namespace Request

/-- What a policy refuses was to come after the pieces that it lets through. -/
theorem cuts_plan (policy : SurrogatePolicy) {request : Request}
    (accepted : (request.plan .replace).fault = none) :
    Plan.Cuts (request.plan .replace) (request.plan policy) := by
  cases request with
  | string value => exact Plan.cuts_string policy accepted
  | stringMap entries =>
      simp only [plan, Plan.stringMap] at accepted ⊢
      split at accepted
      · simp at accepted
      · exact Plan.cuts_counted policy accepted
  | stringSet value =>
      simp only [plan, Plan.stringSet] at accepted ⊢
      split at accepted
      · simp at accepted
      · split at accepted
        · simp at accepted
        · exact Plan.cuts_counted policy accepted
  | _ => exact .same

theorem built_plan (policy : SurrogatePolicy) (request : Request) :
    (request.plan policy).Built := by
  cases request with
  | byte value => exact .byte _
  | bytes data offset length =>
      simp only [plan, Plan.slice]
      split
      · exact .refused (Or.inl rfl)
      · exact .range _
  | int16 value => exact Plan.built_word 2 value
  | int32 value => exact Plan.built_word 4 value
  | int64 value => exact Plan.built_word 8 value
  | vint value => exact Plan.built_vint value
  | vlong value => exact Plan.built_guarded (.range _) (Or.inl rfl)
  | zint32 value => exact Plan.built_guarded (Plan.built_vint _) (Or.inl rfl)
  | zint64 value => exact Plan.built_guarded (.range _) (Or.inl rfl)
  | string value => exact Plan.built_string policy value
  | stringMap entries => exact Plan.built_stringMap policy entries
  | stringSet value => exact Plan.built_stringSet policy value

end Request

end IndexWire
