import IndexWire.Proofs.Sink.Capacity
import IndexWire.Proofs.Sink.Rejection
import IndexWire.Proofs.Sink.Views
import IndexWire.Proofs.Wire.RoundTrip

/-!
# What fits into a window

A window takes the portions of a request in order for as long as each of them fits into what is left
of it, and refuses the first that does not. This file says what the portions are, how many of them
fit, and that the window then holds exactly these; a request of one portion is written as a whole or
not at all, and requests one after another succeed exactly when all of their bytes fit.
-/

namespace IndexWire

namespace Bytes

/-- The count of portions that fit one after another, and beyond which the next does not. -/
structure FitsFirst (portions : List Bytes) (room count : Nat) : Prop where
  inside : count ≤ portions.length
  fits : (portions.take count).flatten.length ≤ room
  most : ∀ more, count < more → more ≤ portions.length →
    room < (portions.take more).flatten.length

theorem exists_fitsFirst (portions : List Bytes) (room : Nat) :
    ∃ count, FitsFirst portions room count := by
  induction portions generalizing room with
  | nil =>
      refine ⟨0, Nat.le_refl 0, Nat.zero_le room, fun more above under => ?_⟩
      exact absurd above (Nat.not_lt.mpr under)
  | cons portion rest ih =>
      by_cases fits : portion.length ≤ room
      · rcases ih (room - portion.length) with ⟨count, inside, within, most⟩
        refine ⟨count + 1, Nat.succ_le_succ inside, ?_, ?_⟩
        · rw [List.take_succ_cons, List.flatten_cons, List.length_append]
          omega
        · intro more above under
          obtain ⟨more, rfl⟩ : ∃ fewer, more = fewer + 1 := ⟨more - 1, by omega⟩
          have beyond := most more (by omega) (Nat.le_of_succ_le_succ under)
          rw [List.take_succ_cons, List.flatten_cons, List.length_append]
          omega
      · refine ⟨0, Nat.zero_le _, Nat.zero_le room, ?_⟩
        intro more above under
        obtain ⟨more, rfl⟩ : ∃ fewer, more = fewer + 1 := ⟨more - 1, by omega⟩
        rw [List.take_succ_cons, List.flatten_cons, List.length_append]
        omega

namespace FitsFirst

variable {portions : List Bytes} {room count : Nat}

/-- No two counts are the greatest that fits. -/
theorem unique {other : Nat} (one : FitsFirst portions room count)
    (two : FitsFirst portions room other) : count = other := by
  rcases Nat.lt_trichotomy count other with less | same | more
  · exact absurd two.fits (Nat.not_le.mpr (one.most other less two.inside))
  · exact same
  · exact absurd one.fits (Nat.not_le.mpr (two.most count more one.inside))

/-- All portions fit exactly when there is room for all of their bytes. -/
theorem eq_length_iff (first : FitsFirst portions room count) :
    count = portions.length ↔ portions.flatten.length ≤ room := by
  constructor
  · rintro rfl
    have fits := first.fits
    rwa [List.take_length] at fits
  · intro enough
    by_contra short
    have beyond := first.most portions.length (Nat.lt_of_le_of_ne first.inside short)
      (Nat.le_refl _)
    rw [List.take_length] at beyond
    omega

end FitsFirst

/-- Bytes as one portion, unless there are none. -/
def filled (bytes : Bytes) : List Bytes := if bytes.isEmpty then [] else [bytes]

end Bytes

namespace Request

/-- The count of the bytes of a text, and then the bytes. -/
def textPortions (value : Value) : List Bytes :=
  let data := Utf8.replaced (value.text?.getD [])
  Varint.encode data.length :: Bytes.filled data

/-- The portions in which an accepted request is written under the policy `replace`. -/
def portions : Request → List Bytes
  | byte value => [[UInt8.ofNat (Word.unsigned 8 value)]]
  | bytes data offset length =>
      Bytes.filled ((data.drop offset.toNat).take (length.getD (data.length - offset)).toNat)
  | int16 value => [FixedWidth.encode 2 (Word.unsigned 16 value)]
  | int32 value => [FixedWidth.encode 4 (Word.unsigned 32 value)]
  | int64 value => [FixedWidth.encode 8 (Word.unsigned 64 value)]
  | vint value => [Varint.encode (Word.unsigned 32 value)]
  | vlong value => [Varint.encode value.toNat]
  | zint32 value => [Varint.encode (Word.zigzag 32 value)]
  | zint64 value => [Varint.encode (Word.zigzag 64 value)]
  | string value => textPortions value
  | stringMap entries =>
      FixedWidth.encode 4 entries.length
        :: entries.flatMap fun entry => textPortions entry.1 ++ textPortions entry.2
  | stringSet value =>
      FixedWidth.encode 4 (value.elements?.getD []).length
        :: (value.elements?.getD []).flatMap textPortions

/-- Whether a request is written in one portion at most. -/
def IsSingle : Request → Prop
  | string _ | stringMap _ | stringSet _ => False
  | _ => True

theorem IsSingle.length_portions_le {request : Request} (single : request.IsSingle) :
    request.portions.length ≤ 1 := by
  cases request with
  | bytes data offset length =>
      simp only [portions, Bytes.filled]
      split <;> simp
  | string value => exact single.elim
  | stringMap entries => exact single.elim
  | stringSet value => exact single.elim
  | _ => exact Nat.le_refl 1

end Request

namespace Plan

/-- A plan without a fault, whose pieces have the bytes of some portions. -/
structure IsWrittenAs (portions : List Bytes) (plan : Plan) : Prop where
  accepted : plan.fault = none
  pieces : plan.pieces.map Piece.bytes = portions

theorem isWrittenAs_range (bytes : Bytes) : (range bytes).IsWrittenAs (Bytes.filled bytes) where
  accepted := fault_range bytes
  pieces := by cases bytes <;> rfl

theorem isWrittenAs_of_ne_nil {bytes : Bytes} (nonempty : bytes ≠ []) :
    (range bytes).IsWrittenAs [bytes] where
  accepted := fault_range bytes
  pieces := by rw [pieces_range nonempty]; rfl

theorem IsWrittenAs.andThen {first second : Plan} {one two : List Bytes}
    (front : first.IsWrittenAs one) (back : second.IsWrittenAs two) :
    (first.andThen second).IsWrittenAs (one ++ two) where
  accepted := (fault_andThen_eq_none_iff first second).mpr ⟨front.accepted, back.accepted⟩
  pieces := by
    simp only [Plan.andThen, front.accepted, List.map_append, front.pieces, back.pieces]

theorem isWrittenAs_inOrder {ι : Type} {plan : ι → Plan} {portions : ι → List Bytes}
    {items : List ι} (each : ∀ item ∈ items, (plan item).IsWrittenAs (portions item)) :
    (inOrder (items.map plan)).IsWrittenAs (items.flatMap portions) := by
  induction items with
  | nil => exact ⟨rfl, rfl⟩
  | cons item rest ih =>
      rw [List.forall_mem_cons] at each
      exact each.1.andThen (ih each.2)

theorem isWrittenAs_word {count : Nat} {value : Int} (positive : count ≠ 0)
    (accepted : (word count value).fault = none) :
    (word count value).IsWrittenAs [FixedWidth.encode count (Word.unsigned (8 * count) value)]
    := by
  have nonempty : FixedWidth.encode count (Word.unsigned (8 * count) value) ≠ [] := by
    apply List.ne_nil_of_length_pos
    rw [FixedWidth.length_encode]
    omega
  rw [word, if_pos ((fault_word_eq_none_iff count value).mp accepted)]
  exact isWrittenAs_of_ne_nil nonempty

theorem isWrittenAs_vint {value : Int} (accepted : (vint value).fault = none) :
    (vint value).IsWrittenAs [Varint.encode (Word.unsigned 32 value)] := by
  rw [vint, if_pos ((fault_vint_eq_none_iff value).mp accepted)]
  exact isWrittenAs_of_ne_nil (Varint.encode_ne_nil _)

theorem isWrittenAs_unsignedLong {number : Nat} (small : number < 2 ^ 64) :
    (unsignedLong number).IsWrittenAs [Varint.encode number] := by
  rw [unsignedLong, Word.unsigned_of_lt small]
  exact isWrittenAs_of_ne_nil (Varint.encode_ne_nil _)

theorem isWrittenAs_vlong {number : Nat} (small : number < 2 ^ 63) :
    (vlong number).IsWrittenAs [Varint.encode number] := by
  have accepted : 0 ≤ (number : Int) ∧ (number : Int) < Nat.pow 2 63 :=
    ⟨Int.natCast_nonneg number, Int.ofNat_lt.mpr small⟩
  rw [vlong, if_pos accepted]
  exact isWrittenAs_unsignedLong (by omega)

theorem isWrittenAs_string {value : Value} (accepted : (string .replace value).fault = none) :
    (string .replace value).IsWrittenAs (Request.textPortions value) := by
  rcases exists_text_of_string accepted with ⟨content, rfl⟩
  have small := (fault_text_replace_eq_none_iff content).mp accepted
  have fits := (fits_natCast_iff 32 (Utf8.replaced content).length).mpr small
  have length := isWrittenAs_vint ((fault_vint_eq_none_iff _).mpr fits)
  rw [Word.unsigned_of_lt small] at length
  change (text .replace content).IsWrittenAs _
  rw [text_replace]
  exact length.andThen (isWrittenAs_range (Utf8.replaced content))

theorem isWrittenAs_counted {count : Nat} {texts : List Value}
    (accepted : (counted .replace count texts).fault = none) :
    (counted .replace count texts).IsWrittenAs
      (FixedWidth.encode 4 count :: texts.flatMap Request.textPortions) := by
  rw [fault_counted_eq_none_iff] at accepted
  have fits : Word.Fits (8 * 4) count := (fits_natCast_iff 32 count).mpr accepted.1
  have header := isWrittenAs_word (by decide) ((fault_word_eq_none_iff 4 count).mpr fits)
  rw [Word.unsigned_of_lt (show count < 2 ^ (8 * 4) from accepted.1)] at header
  exact header.andThen
    (isWrittenAs_inOrder fun value mem => isWrittenAs_string (accepted.2 value mem))

end Plan

namespace Request

/-- An accepted request is written in its portions. -/
theorem isWrittenAs_portions {request : Request} (accepted : request.Accepted .replace) :
    (request.plan .replace).IsWrittenAs request.portions := by
  have planned := (fault_plan_eq_none_iff .replace request).mpr accepted
  cases request with
  | byte value => exact ⟨rfl, rfl⟩
  | bytes data offset length =>
      rcases Plan.slice_of_accepted planned with ⟨start, count, rfl, size, inside, plan⟩
      simp only [Request.plan, portions, plan, size, Int.toNat_natCast]
      exact Plan.isWrittenAs_range _
  | int16 value => exact Plan.isWrittenAs_word (by decide) planned
  | int32 value => exact Plan.isWrittenAs_word (by decide) planned
  | int64 value => exact Plan.isWrittenAs_word (by decide) planned
  | vint value => exact Plan.isWrittenAs_vint planned
  | vlong value =>
      rcases Int.eq_ofNat_of_zero_le accepted.1 with ⟨number, rfl⟩
      exact Plan.isWrittenAs_vlong (Int.ofNat_lt.mp accepted.2)
  | zint32 value =>
      have small := Word.zigzag_lt 32 value
      have fits := (Plan.fits_natCast_iff 32 (Word.zigzag 32 value)).mpr small
      have written := Plan.isWrittenAs_vint ((Plan.fault_vint_eq_none_iff _).mpr fits)
      rw [Word.unsigned_of_lt small] at written
      simp only [Request.plan, Plan.zint32]
      rw [if_pos ((Plan.fault_zint32_eq_none_iff value).mp planned)]
      exact written
  | zint64 value =>
      simp only [Request.plan, Plan.zint64]
      rw [if_pos ((Plan.fault_zint64_eq_none_iff value).mp planned)]
      exact Plan.isWrittenAs_unsignedLong (Word.zigzag_lt 64 value)
  | string value => exact Plan.isWrittenAs_string planned
  | stringMap entries =>
      have plan := Plan.stringMap_of_accepted planned
      simp only [Request.plan, plan] at planned ⊢
      have written := Plan.isWrittenAs_counted planned
      rw [List.flatMap_assoc] at written
      simp only [portions, List.flatMap_cons, List.flatMap_nil, List.append_nil] at written ⊢
      exact written
  | stringSet value =>
      rcases Plan.stringSet_of_accepted planned with ⟨elements, found, plan⟩
      simp only [Request.plan, plan, portions, found, Option.getD_some] at planned ⊢
      exact Plan.isWrittenAs_counted planned

end Request

namespace Destination

variable {store : Store} {region : Region}

theorem hasRoom_region_iff (placed : region.IsPlaced store) (count : Nat) :
    (Destination.region region).HasRoom count ↔ count ≤ region.remaining := by
  have high := placed.high
  simp only [HasRoom, Region.remaining]
  omega

/-- A delivery to a window takes the portions that fit one after another, and runs out of room. -/
theorem deliver_fitting (placed : region.IsPlaced store) {plan : Plan} {portions : List Bytes}
    (written : plan.IsWrittenAs portions) :
    ∃ count, Bytes.FitsFirst portions region.remaining count ∧
      let delivered := (Destination.region region).deliver store plan.pieces
      (delivered.fault = none ↔ count = portions.length) ∧
        (∀ fault ∈ delivered.fault, fault.category = .ended) ∧
          Took (store, .region region) (portions.take count).flatten delivered.state := by
  rcases Bytes.exists_fitsFirst portions region.remaining with ⟨count, first⟩
  refine ⟨count, first, ?_⟩
  have whole : (Destination.region region).IsWhole store := placed
  have lengths : plan.pieces.length = portions.length := by
    rw [← written.pieces, List.length_map]
  have taken : ∀ count, (portions.take count).flatten
      = (plan.pieces.take count).flatMap Piece.bytes := by
    intro count
    rw [← written.pieces, ← List.map_take, List.flatMap_def]
  have room : (Destination.region region).HasRoom
      ((plan.pieces.take count).flatMap Piece.bytes).length := by
    rw [hasRoom_region_iff placed, ← taken]
    exact first.fits
  have split := List.take_append_drop count plan.pieces
  rw [taken]
  cases rest : plan.pieces.drop count with
  | nil =>
      have all : portions.length ≤ count := by
        rw [← lengths]
        exact List.drop_eq_nil_iff.mp rest
      rw [rest, List.append_nil] at split
      rw [split] at room ⊢
      rcases deliver_of_room whole room with ⟨success, took⟩
      refine ⟨⟨fun _ => Nat.le_antisymm first.inside all, fun _ => success⟩, ?_, took⟩
      simp [success]
  | cons piece back =>
      have inside : count < portions.length := by
        have some := congrArg List.length rest
        rw [List.length_drop, List.length_cons] at some
        omega
      have next : plan.pieces.take (count + 1) = plan.pieces.take count ++ [piece] := by
        rw [List.take_add, rest]
        rfl
      have full : ¬(Destination.region region).HasRoom
          (((plan.pieces.take count).flatMap Piece.bytes).length + piece.bytes.length) := by
        have beyond := first.most (count + 1) (Nat.lt_succ_self count) inside
        rw [taken, next, List.flatMap_append, List.length_append, List.flatMap_cons,
          List.flatMap_nil, List.append_nil] at beyond
        rw [hasRoom_region_iff placed]
        omega
      rcases deliver_of_no_room whole _ piece back (fun _ => room) full with ⟨refused, took⟩
      rw [← rest, split] at refused took
      refine ⟨⟨fun success => ?_, fun all => absurd all (Nat.ne_of_lt inside)⟩, ?_, took⟩
      · rw [success] at refused
        cases refused
      · rw [refused]
        rintro fault ⟨⟩
        cases piece <;> rfl

/--
A window after bytes that it has taken: they stand from its cursor on, and nothing else moved.
-/
theorem Took.eq_of_region {after : Store × Destination} {data : Bytes}
    (placed : region.IsPlaced store) (took : Took (store, .region region) data after) :
    let moved := { region with position := region.position + data.length }
    after.2 = .region moved ∧ moved.IsPlaced after.1 ∧
      (after.1.buffer region.buffer).bytes
        = (store.buffer region.buffer).bytes.take region.position ++ data
          ++ (store.buffer region.buffer).bytes.drop (region.position + data.length) := by
  intro moved
  rcases exists_region_of_site took.site with ⟨position, found⟩
  have whole := took.whole
  rw [found] at whole
  have counted := took.count
  rw [found] at counted
  change position - region.start = region.position - region.start + data.length at counted
  have further : position = region.position + data.length := by
    have before := placed.low
    have behind := whole.low
    simp only at behind
    omega
  subst further
  refine ⟨found, whole, ?_⟩
  have contents := took.contents
  rw [found] at contents
  have buffers := congrArg Memory.buffer (Option.some.inj contents)
  simp only [Memory.buffer_ofBytes] at buffers
  rw [buffers]
  simp [Memory.buffer, Memory.value, Memory.put, Memory.ofBytes, List.drop_drop]

end Destination

namespace Sink

variable {store : Store} {region : Region}

/-- What a write to a window takes is what fits of its portions. -/
theorem write_fitting (placed : region.IsPlaced store) (scratch : Option Bytes) {request : Request}
    (accepted : request.Accepted .replace) :
    ∃ count, Bytes.FitsFirst request.portions region.remaining count ∧
      let attempt := write store ⟨.replace, scratch, .region region⟩ request
      let data := (request.portions.take count).flatten
      let moved := { region with position := region.position + data.length }
      (attempt.fault = none ↔ count = request.portions.length) ∧
        (∀ fault ∈ attempt.fault, fault.category = .ended) ∧
          attempt.state.2 = ⟨.replace, scratch, .region moved⟩ ∧
            Destination.Took (store, .region region) data (attempt.state.1, .region moved) := by
  have written := Request.isWrittenAs_portions accepted
  rcases Destination.deliver_fitting placed written with ⟨count, first, success, ended, took⟩
  refine ⟨count, first, ?_⟩
  have reached := (took.eq_of_region placed).1
  simp only [write, carryOut, written.accepted, Option.or_none]
  refine ⟨success, ended, by rw [reached], ?_⟩
  rw [← reached]
  exact took

/-- Requests one after another succeed exactly when a window has room for all of their bytes. -/
theorem writeAll_fitting (placed : region.IsPlaced store) (scratch : Option Bytes)
    {requests : List Request} (accepted : ∀ request ∈ requests, request.Accepted .replace) :
    (∀ outcome ∈ (writeAll store ⟨.replace, scratch, .region region⟩ requests).2.2,
        outcome = none) ↔
      (requests.flatMap Request.portions).flatten.length ≤ region.remaining := by
  induction requests generalizing store region with
  | nil => simp [writeAll]
  | cons request rest ih =>
      rw [List.forall_mem_cons] at accepted
      rcases write_fitting placed scratch accepted.1 with ⟨count, first, success, -, state, took⟩
      have all := success.trans first.eq_length_iff
      simp only [writeAll, List.forall_mem_cons, state, all, List.flatMap_cons,
        List.flatten_append, List.length_append]
      by_cases fits : request.portions.flatten.length ≤ region.remaining
      · have whole := first.eq_length_iff.mpr fits
        rw [whole, List.take_length] at took ⊢
        rw [ih (took.eq_of_region placed).2.1 accepted.2, and_iff_right fits]
        simp only [Region.remaining] at fits ⊢
        omega
      · constructor
        · exact fun both => absurd both.1 fits
        · intro both
          exact absurd (Nat.le_trans (Nat.le_add_right _ _) both) fits

/--
A window takes the first portions of an accepted request for as long as they fit, puts them from its
cursor on and changes nothing else; the request fails, for want of room, exactly when a portion is
left. Requests one after another succeed exactly when what they write to memory fits.
-/
theorem region_takes_fitting_portions (placed : region.IsPlaced store) (scratch : Option Bytes) :
    (∀ request : Request, request.Accepted .replace →
      ∃ count, Bytes.FitsFirst request.portions region.remaining count ∧
        (request.IsSingle → count = 0 ∨ count = request.portions.length) ∧
          let attempt := write store ⟨.replace, scratch, .region region⟩ request
          let data := (request.portions.take count).flatten
          let before := (store.buffer region.buffer).bytes
          (attempt.fault = none ↔ count = request.portions.length) ∧
            (∀ fault ∈ attempt.fault, fault.category = .ended) ∧
              (attempt.state.1.buffer region.buffer).bytes
                  = before.take region.position ++ data
                    ++ before.drop (region.position + data.length) ∧
                (∀ place ≠ Place.buffer region.buffer,
                  place.bytes attempt.state.1 = place.bytes store) ∧
                  attempt.state.2
                    = ⟨.replace, scratch,
                        .region { region with position := region.position + data.length }⟩) ∧
      ∀ requests : List Request, (∀ request ∈ requests, request.Accepted .replace) →
        ∃ memory,
          (writeAll store { policy := .replace, destination := .memory {} }
              requests).2.1.destination = .memory memory ∧
            ((∀ outcome ∈ (writeAll store ⟨.replace, scratch, .region region⟩ requests).2.2,
                outcome = none) ↔
              memory.value.length ≤ region.remaining) := by
  constructor
  · intro request accepted
    rcases write_fitting placed scratch accepted with
        ⟨count, first, success, ended, state, took⟩
    refine ⟨count, first, fun single => ?_, success, ended, ?_, ?_, state⟩
    · have few := single.length_portions_le
      have inside := first.inside
      omega
    · exact (took.eq_of_region placed).2.2
    · intro place elsewhere
      exact took.others place fun same => elsewhere (Option.some.inj same).symm
  · intro requests accepted
    refine ⟨_, by rw [writeAll_memory], ?_⟩
    have bytes : (requests.flatMap fun request => (request.plan .replace).bytes)
        = (requests.flatMap Request.portions).flatten := by
      rw [List.flatMap_def, List.flatMap_def, List.flatten_flatten, List.map_map]
      refine congrArg List.flatten (List.map_congr_left fun request mem => ?_)
      rw [Function.comp_apply, ← (Request.isWrittenAs_portions (accepted request mem)).pieces]
      exact List.flatMap_def
    rw [writeAll_fitting placed scratch accepted, Memory.value_put, bytes]
    exact Iff.rfl

/-- A window of five bytes takes two of the three portions of a set of one text. -/
theorem region_takes_fitting_portions_two :
    let attempt := write { buffers := [{ bytes := [9, 9, 9, 9, 9, 9, 9] }] }
      { policy := .replace, destination := .region ⟨0, 1, 6, 1⟩ }
      (.stringSet (.list [.text (Text.ofString "ab")]))
    (attempt.fault ≠ none ∧ ∀ fault ∈ attempt.fault, fault.category = .ended) ∧
      (attempt.state.1.buffer 0).bytes = [9, 0, 0, 0, 1, 2, 9] ∧
        attempt.state.2.destination = .region ⟨0, 1, 6, 6⟩ := by
  intro attempt
  have accepted : (Request.stringSet (.list [.text (Text.ofString "ab")])).Accepted .replace := by
    refine (Request.fault_plan_eq_none_iff _ _).mp ?_
    decide +kernel
  have placed : Region.IsPlaced { buffers := [{ bytes := [9, 9, 9, 9, 9, 9, 9] }] } ⟨0, 1, 6, 1⟩ :=
    ⟨by decide, by decide, by decide, by decide⟩
  have listed : (Request.stringSet (.list [.text (Text.ofString "ab")])).portions
      = [[0, 0, 0, 1], [2], [97, 98]] := by
    decide +kernel
  rcases (region_takes_fitting_portions placed none).1 _ accepted with
      ⟨count, first, -, success, ended, bytes, -, state⟩
  rw [listed] at first success bytes state
  obtain rfl : count = 2 := by
    refine first.unique ⟨by decide, by decide, fun more above under => ?_⟩
    obtain rfl : more = 3 := by
      simp only [List.length_cons, List.length_nil] at under
      omega
    decide
  refine ⟨⟨fun none => absurd (success.mp none) (by decide), ended⟩, bytes, ?_⟩
  exact congrArg Sink.destination state

/--
A window whose buffer has become too short for it refuses a byte for which it has room, and not for
want of room; items of four bytes each are taken although there is room for the count of them only.
-/
theorem region_breaks_portions :
    let short : Store := { buffers := [{ bytes := [7] }] }
    let region : Region := ⟨0, 0, 4, 2⟩
    let refused := write short ⟨.replace, none, .region region⟩ (.byte 5)
    let long : Store := { buffers := [{ bytes := [0, 1, 2, 3, 4, 5, 6, 7, 8, 9] }] }
    let window : Region := ⟨0, 2, 5, 2⟩
    let taken := writeItems long ⟨.replace, none, .region window⟩ View.threeWords 0 none
    ((Request.byte 5).portions.flatten.length ≤ region.remaining ∧
        ∃ fault, refused.fault = some fault ∧ fault.category = .index) ∧
      window.remaining < View.threeWords.bytes.length ∧ taken.fault = none ∧
        (taken.state.1.buffer 0).bytes
          = [0, 1, 1, 0, 0, 0, 2, 0, 0, 0, 3, 0, 0, 0, 5, 6, 7, 8, 9] := by
  intro short region refused long window taken
  refine ⟨⟨by decide, _, rfl, rfl⟩, by decide, rfl, ?_⟩
  decide +kernel

end Sink

end IndexWire
