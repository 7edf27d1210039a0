import IndexWire.Proofs.Directory.Keeping
import IndexWire.Proofs.Sink.Rejection
import IndexWire.Proofs.Wire.Shortest
import IndexWire.Proofs.Zigzag
import Mathlib

/-!
# Sizes

How many bytes a value takes is known without writing it. The size of a number is a count of groups
of seven bits, and so a function of the bit length of the number; it is the length of what is
written for it, and a counter that is handed a text, a map or a set counts the sum of such sizes.

A request `Adds` so many bytes if it is taken wherever there is room for them, and grows the count
of each sink that takes it by their number, also where a device keeps only a part of what it is
given.
-/

namespace IndexWire

namespace Varint

/-- A number of more than seven bits has seven bits more than what stands above its low group. -/
theorem natSize_div {number : Nat} (large : 128 ≤ number) :
    Nat.size number = Nat.size (number / 128) + 7 := by
  have same : ∀ bits, Nat.size number ≤ bits + 7 ↔ Nat.size (number / 128) ≤ bits := by
    intro bits
    have power : 2 ^ (bits + 7) = 2 ^ bits * 128 := by
      rw [Nat.pow_add]
    simp only [Nat.size_le, power]
    exact (Nat.div_lt_iff_lt_mul (by decide)).symm
  have long : 7 < Nat.size number := Nat.lt_size.mpr large
  have upper := (same (Nat.size (number / 128))).mpr (Nat.le_refl _)
  have lower := (same (Nat.size number - 7)).mp (by omega)
  omega

/-- A number fills as many groups as its bits take, and one if it has none. -/
theorem size_eq_ceilDiv (number : Nat) : size number = max 1 (Nat.size number ⌈/⌉ 7) := by
  simp only [Nat.ceilDiv_eq_add_pred_div]
  fun_induction size number with
  | case1 number small =>
      have bits : Nat.size number ≤ 7 := Nat.size_le.mpr small
      omega
  | case2 number large ih =>
      have bits := natSize_div (Nat.not_lt.mp large)
      have positive : 0 < Nat.size (number / 128) := by
        apply Nat.size_pos.mpr
        omega
      omega

theorem size_mono : Monotone size := by
  intro less more le
  have bits : Nat.size less ≤ Nat.size more := Nat.size_le_size le
  simp only [size_eq_ceilDiv, Nat.ceilDiv_eq_add_pred_div]
  omega

theorem wordSize_natCast {width number : Nat} (small : number < 2 ^ width) :
    wordSize width number = size number := by
  simp only [wordSize, Word.unsigned_of_lt small]

theorem length_encode_eq_wordSize (width : Nat) (value : Int) :
    (encode (Word.unsigned width value)).length = wordSize width value :=
  length_encode _

/-- The size of a word in terms of the remainder that it is. -/
theorem wordSize_eq_ceilDiv (width : Nat) (value : Int) :
    wordSize width value = max 1 (Nat.size (value % 2 ^ width).toNat ⌈/⌉ 7) := by
  have reading : (value % 2 ^ width).toNat = Word.unsigned width value := by
    rw [← Word.cast_unsigned, Int.toNat_natCast]
  rw [reading]
  exact size_eq_ceilDiv _

end Varint

namespace Region

/-- What a window takes moves its cursor by as many bytes. -/
theorem position_put {region changed : Region} {before after : Buffer} {piece : Piece}
    (taken : region.put before piece = .ok (changed, after)) :
    changed = { region with position := region.position + piece.bytes.length } := by
  cases piece with
  | byte value =>
      simp only [put, putByte] at taken
      split at taken
      · cases taken
      · rcases map_eq_ok.mp taken with ⟨buffer, -, moved⟩
        cases moved
        rfl
  | range content =>
      simp only [put, putRange] at taken
      split at taken
      · cases taken
      · rcases map_eq_ok.mp taken with ⟨buffer, -, moved⟩
        cases moved
        rfl

end Region

namespace Destination

/-- Whether the cursor of a window is not before its start. -/
def IsBegun : Destination → Prop
  | region target => target.start ≤ target.position
  | _ => True

variable {store : Store} {destination : Destination}

/-- A piece that is taken is counted, whatever becomes of its bytes. -/
theorem count_put (begun : destination.IsBegun) {piece : Piece}
    (taken : (destination.put store piece).fault = none) :
    (destination.put store piece).state.2.count = destination.count + piece.bytes.length ∧
      (destination.put store piece).state.2.IsBegun := by
  cases destination with
  | memory target => exact ⟨Memory.position_put target piece.bytes, trivial⟩
  | counter count => exact ⟨rfl, trivial⟩
  | region target =>
      simp only [IsBegun] at begun
      cases outcome : target.put (store.buffer target.buffer) piece with
      | error fault => simp [put, outcome, Attempt.failed] at taken
      | ok result =>
          obtain ⟨changed, buffer⟩ := result
          obtain rfl := Region.position_put outcome
          simp only [put, outcome, count, IsBegun]
          omega
  | stream target =>
      cases outcome : (target.device.write store piece.bytes).fault with
      | some fault => simp [put, Stream.put, outcome, Attempt.failed, Attempt.map] at taken
      | none => simp [put, Stream.put, outcome, Attempt.map, count, IsBegun]
  | recorder target =>
      simp only [put, Recorder.put, Attempt.map] at taken ⊢
      split at taken
      · cases taken
      · rename_i within
        rw [if_neg within]
        simp [count, IsBegun, Nat.add_comm]

theorem count_deliver (begun : destination.IsBegun) {pieces : List Piece}
    (taken : (destination.deliver store pieces).fault = none) :
    (destination.deliver store pieces).state.2.count
      = destination.count + (pieces.flatMap Piece.bytes).length := by
  induction pieces generalizing store destination with
  | nil => simp [deliver]
  | cons piece rest ih =>
      cases accepted : (destination.put store piece).fault with
      | some fault => simp [deliver, accepted] at taken
      | none =>
          simp only [deliver, accepted] at taken ⊢
          have first := count_put begun accepted
          have later := ih first.2 taken
          rw [later, first.1]
          simp [Nat.add_assoc]

/-- A counter takes everything. -/
theorem deliver_counter (count : Nat) (pieces : List Piece) :
    (Destination.counter count).deliver store pieces
      = { state := (store, .counter (count + (pieces.flatMap Piece.bytes).length)) } := by
  induction pieces generalizing count with
  | nil => simp [deliver]
  | cons piece rest ih => simp [deliver, put, ih, Nat.add_assoc]

end Destination

namespace Request

/-- A request that adds a number of bytes to whatever takes it, and is taken where there is room. -/
structure Adds (request : Request) (number : Nat) : Prop where
  emits : ∃ bytes, bytes.length = number ∧ request.Emits bytes
  counted : ∀ (store : Store) (sink : Sink), sink.destination.IsBegun →
    (sink.write store request).fault = none →
      (sink.write store request).state.2.destination.count = sink.destination.count + number

theorem adds_of_bytes {request : Request} {bytes : Bytes} {number : Nat}
    (accepted : ∀ policy, (request.plan policy).fault = none)
    (same : ∀ policy, (request.plan policy).bytes = bytes) (length : bytes.length = number) :
    request.Adds number where
  emits := ⟨bytes, length, emits_of_bytes accepted same⟩
  counted store sink begun taken := by
    have delivered : (sink.destination.deliver store (request.plan sink.policy).pieces).fault
        = none := by
      simpa [Sink.write, Sink.carryOut, accepted] using taken
    have grown := Destination.count_deliver begun delivered
    rw [← length, ← same sink.policy]
    exact grown

open Varint

theorem adds_vint {value : Int} (fits : Word.Fits 32 value) :
    (vint value).Adds (wordSize 32 value) := by
  apply adds_of_bytes
  · exact fun _ => (Plan.fault_vint_eq_none_iff value).mpr fits
  · exact fun _ => Plan.bytes_vint fits
  · exact length_encode _

theorem adds_vlong {number : Nat} (small : number < 2 ^ 63) :
    (vlong number).Adds (wordSize 64 number) := by
  rw [wordSize_natCast (by omega)]
  apply adds_of_bytes
  · exact fun _ => (Plan.fault_vlong_eq_none_iff number).mpr ⟨by omega, by omega⟩
  · exact fun _ => Plan.bytes_vlong_natCast small
  · exact length_encode _

/-- What is the zigzag form of a value in seven-bit groups, under every policy, is of its size. -/
theorem adds_zigzag {width : Nat} {value : Int} {request : Request}
    (accepted : ∀ policy, (request.plan policy).fault = none)
    (same : ∀ policy, (request.plan policy).bytes = encode (Word.zigzag width value)) :
    request.Adds (wordSize width (Word.zigzag width value)) := by
  rw [wordSize_natCast (Word.zigzag_lt width value)]
  exact adds_of_bytes accepted same (length_encode _)

/-- Every integer has a signed reading that is accepted, and the same size as it. -/
theorem adds_vint_signed (value : Int) :
    (vint (Word.signed 32 value)).Adds (wordSize 32 value) := by
  have inside : Word.IsSigned 32 (Word.signed 32 value) := Word.isSigned_signed (by decide) value
  have fits : Word.Fits 32 (Word.signed 32 value) :=
    (Word.fits_iff 32 _).mpr ⟨inside.1, inside.2.trans (by decide)⟩
  have same : wordSize 32 (Word.signed 32 value) = wordSize 32 value := by
    simp only [wordSize_eq_ceilDiv, Word.signed_emod]
  have adds := adds_vint fits
  rwa [same] at adds

end Request

/-- How many bytes a text takes with the count before it, if its own bytes are the given ones. -/
def Bytes.countedSize (data : Bytes) : Nat := Varint.wordSize 32 data.length + data.length

/-- Whether the second is what the first is encoded as, and short enough to be counted. -/
def SurrogatePolicy.Encodes (policy : SurrogatePolicy) (part : Text × Bytes) : Prop :=
  encodeText policy part.1 = .ok part.2 ∧ part.2.length < 2 ^ 32

namespace Plan

variable {policy : SurrogatePolicy}

theorem text_of_encodes {part : Text × Bytes} (encodes : policy.Encodes part) :
    (text policy part.1).fault = none ∧ (text policy part.1).bytes.length = part.2.countedSize := by
  rcases encodes with ⟨encoded, short⟩
  have fits := (fits_natCast_iff 32 part.2.length).mpr short
  have header := (fault_vint_eq_none_iff _).mpr fits
  have plan : text policy part.1 = (vint part.2.length).andThen (range part.2) := by
    simp only [text, encoded]
  rw [plan]
  constructor
  · exact (fault_andThen_eq_none_iff _ _).mpr ⟨header, fault_range _⟩
  · rw [bytes_andThen header, bytes_vint fits, bytes_range, List.length_append,
      Varint.length_encode_eq_wordSize]
    rfl

theorem fault_counted_of_encodes {count : Nat} (few : count < 2 ^ 32)
    {parts : List (Text × Bytes)} (encodes : ∀ part ∈ parts, policy.Encodes part) :
    (counted policy count (parts.map fun part => .text part.1)).fault = none := by
  apply (fault_counted_eq_none_iff _ _ _).mpr
  refine ⟨few, ?_⟩
  intro value mem
  rcases List.mem_map.mp mem with ⟨part, among, rfl⟩
  exact (text_of_encodes (encodes part among)).1

/-- A collection takes four bytes more than its texts. -/
theorem length_bytes_counted {count : Nat} (few : count < 2 ^ 32)
    {parts : List (Text × Bytes)} (encodes : ∀ part ∈ parts, policy.Encodes part) :
    (counted policy count (parts.map fun part => .text part.1)).bytes.length
      = 4 + (parts.map fun part => part.2.countedSize).sum := by
  have sizes : (parts.map fun part => (text policy part.1).bytes.length)
      = parts.map fun part => part.2.countedSize := by
    apply List.map_congr_left
    intro part mem
    exact (text_of_encodes (encodes part mem)).2
  rw [bytes_counted (fault_counted_of_encodes few encodes), List.length_append,
    FixedWidth.length_encode, List.flatMap_map, List.length_flatMap, ← sizes]
  rfl

end Plan

namespace Sink

variable {policy : SurrogatePolicy} {request : Request}

/-- A counter counts the bytes of a request that is accepted. -/
theorem write_counter (accepted : (request.plan policy).fault = none) (store : Store)
    (scratch : Option Bytes) (count : Nat) :
    write store ⟨policy, scratch, .counter count⟩ request
      = { state :=
            (store,
              ⟨policy, scratch, .counter (count + (request.plan policy).bytes.length)⟩) } := by
  simp only [write, carryOut, Destination.deliver_counter, accepted, Plan.bytes]
  rfl

theorem write_counter_text {part : Text × Bytes} (encodes : policy.Encodes part) (store : Store)
    (scratch : Option Bytes) (count : Nat) :
    write store ⟨policy, scratch, .counter count⟩ (.string (.text part.1))
      = { state := (store, ⟨policy, scratch, .counter (count + part.2.countedSize)⟩) } := by
  rcases Plan.text_of_encodes encodes with ⟨accepted, length⟩
  rw [← length]
  exact @write_counter policy (.string (.text part.1)) accepted store scratch count

variable {entries : Nat} {parts : List (Text × Bytes)}

theorem plan_of_parts (lists : request.Lists entries (parts.map Prod.fst)) :
    request.plan policy = .counted policy entries (parts.map fun part => .text part.1) := by
  rw [Request.plan_of_lists lists, List.map_map]
  rfl

theorem write_counter_parts (few : entries < 2 ^ 32)
    (lists : request.Lists entries (parts.map Prod.fst))
    (encodes : ∀ part ∈ parts, policy.Encodes part) (store : Store) (scratch : Option Bytes)
    (count : Nat) :
    write store ⟨policy, scratch, .counter count⟩ request
      = { state :=
            (store, ⟨policy, scratch,
              .counter (count + (4 + (parts.map fun part => part.2.countedSize).sum))⟩) } := by
  rw [← Plan.length_bytes_counted few encodes, ← plan_of_parts lists]
  apply write_counter
  rw [plan_of_parts lists]
  exact Plan.fault_counted_of_encodes few encodes

/-- A collection of more entries than can be counted is refused as a whole. -/
theorem write_of_many_parts (many : 2 ^ 32 ≤ entries)
    (lists : request.Lists entries (parts.map Prod.fst)) (store : Store) (sink : Sink) :
    (sink.write store request).fault ≠ none ∧ (sink.write store request).state = (store, sink) := by
  have unfit : ¬Word.Fits (8 * 4) entries := by
    rw [Plan.fits_natCast_iff]
    omega
  have plan : request.plan sink.policy = .refused (.outOfWidth entries (8 * 4)) := by
    rw [plan_of_parts lists, Plan.counted, Plan.word, if_neg unfit]
    rfl
  simp [write, carryOut, plan, Plan.refused, Destination.deliver]

end Sink

namespace Request

open Varint

/-- Whether some sink takes a request. -/
def IsTaken (request : Request) : Prop :=
  ∃ store sink, (Sink.write store sink request).fault = none

/-- Whether a request is taken by some sink is told by its plan, if no policy has a part in that. -/
theorem isTaken_iff {request : Request} {accepted : Prop}
    (planned : ∀ policy, (request.plan policy).fault = none ↔ accepted) :
    request.IsTaken ↔ accepted := by
  constructor
  · intro taken
    rcases taken with ⟨store, sink, taken⟩
    exact (planned sink.policy).mp (Option.or_eq_none_iff.mp taken).2
  · intro holds
    exists {}, ⟨.replace, none, .counter 0⟩
    rw [Sink.write_counter ((planned .replace).mpr holds)]

/--
The sizes of words tell how many bytes are written for them: the size of any integer is that of its
signed reading of 32 bits, and it is what the bits of the word take in groups of seven. A text is
counted as its bytes and the size of their number, a map or a set as four bytes and its texts; one
with more entries than 32 bits can count is refused. A word that is no less has no lesser size.
-/
theorem sizes_tell_bytes :
    (∀ value : Int,
      (vint (Word.signed 32 value)).Adds (wordSize 32 value) ∧
        wordSize 32 value = max 1 (Nat.size (value % 2 ^ 32).toNat ⌈/⌉ 7) ∧
        wordSize 64 value = max 1 (Nat.size (value % 2 ^ 64).toNat ⌈/⌉ 7)) ∧
    (∀ value : Int, 0 ≤ value → value < 2 ^ 63 → (vlong value).Adds (wordSize 64 value)) ∧
    (∀ value : Int, ((zint64 value).IsTaken ↔ -2 ^ 63 ≤ value ∧ value < 2 ^ 64) ∧
      ((zint64 value).IsTaken → (zint64 value).Adds (wordSize 64 (Word.zigzag 64 value)))) ∧
    (∀ value : Int, ((zint32 value).IsTaken ↔ -2 ^ 31 ≤ value ∧ value < 2 ^ 32) ∧
      ((zint32 value).IsTaken → (zint32 value).Adds (wordSize 32 (Word.zigzag 32 value)))) ∧
    (∀ (store : Store) (policy : SurrogatePolicy) (scratch : Option Bytes) (count : Nat),
      (∀ content data, encodeText policy content = .ok data → data.length < 2 ^ 32 →
        Sink.write store ⟨policy, scratch, .counter count⟩ (string (.text content))
          = { state :=
                (store, ⟨policy, scratch,
                  .counter (count + (wordSize 32 data.length + data.length))⟩) }) ∧
      ∀ (request : Request) (entries : Nat) (parts : List (Text × Bytes)),
        request.Lists entries (parts.map Prod.fst) →
        (∀ part ∈ parts, encodeText policy part.1 = .ok part.2 ∧ part.2.length < 2 ^ 32) →
          let attempt := Sink.write store ⟨policy, scratch, .counter count⟩ request
          let sizes := parts.map fun part => wordSize 32 part.2.length + part.2.length
          (entries < 2 ^ 32 →
            attempt = { state := (store, ⟨policy, scratch, .counter (count + (4 + sizes.sum))⟩) }) ∧
          (2 ^ 32 ≤ entries →
            attempt.fault ≠ none ∧
              attempt.state = (store, ⟨policy, scratch, .counter count⟩))) ∧
    ∀ (width : Nat) (less more : Int), Word.unsigned width less ≤ Word.unsigned width more →
      wordSize width less ≤ wordSize width more := by
  refine ⟨?_, ?_, ?_, ?_, ?_, ?_⟩
  · intro value
    exact ⟨adds_vint_signed value, wordSize_eq_ceilDiv 32 value, wordSize_eq_ceilDiv 64 value⟩
  · intro value low high
    rcases Int.eq_ofNat_of_zero_le low with ⟨number, rfl⟩
    apply adds_vlong
    exact_mod_cast high
  · intro value
    have taken : (zint64 value).IsTaken ↔ Word.Fits 64 value :=
      isTaken_iff fun _ => Plan.fault_zint64_eq_none_iff value
    exact ⟨taken, fun accepted => adds_zigzag
      (fun _ => (Plan.fault_zint64_eq_none_iff value).mpr (taken.mp accepted))
      fun _ => Plan.bytes_zint64 (taken.mp accepted)⟩
  · intro value
    have taken : (zint32 value).IsTaken ↔ Word.Fits 32 value :=
      isTaken_iff fun _ => Plan.fault_zint32_eq_none_iff value
    exact ⟨taken, fun accepted => adds_zigzag
      (fun _ => (Plan.fault_zint32_eq_none_iff value).mpr (taken.mp accepted))
      fun _ => Plan.bytes_zint32 (taken.mp accepted)⟩
  · intro store policy scratch count
    constructor
    · intro content data encoded short
      have encodes : policy.Encodes (content, data) := ⟨encoded, short⟩
      exact Sink.write_counter_text encodes store scratch count
    · intro request entries parts lists encodes
      constructor
      · intro few
        exact Sink.write_counter_parts few lists encodes store scratch count
      · intro many
        exact Sink.write_of_many_parts many lists store _
  · intro width less more le
    exact size_mono le

end Request

end IndexWire
