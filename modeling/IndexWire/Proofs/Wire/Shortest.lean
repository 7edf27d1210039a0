import IndexWire.Proofs.Sink.Delivery
import IndexWire.Proofs.Sink.Plan
import IndexWire.Sink.Basic

/-!
# Shortest strings

A number has many well-formed strings, because groups of zeros may stand above its highest one. The
one that is written is the shortest: it has no such group, unless the number is zero and the group
is all there is. It is told from the others by its last byte alone, and so the strings that are
written are the well-formed ones of one byte and those that do not end in a zero.
-/

namespace IndexWire

/-- Bytes that a request adds wherever there is room for them. -/
def Request.Emits (request : Request) (bytes : Bytes) : Prop :=
  ∀ (store : Store) (sink : Sink), sink.destination.IsWhole store →
    sink.destination.HasRoom bytes.length →
      (sink.write store request).fault = none ∧
        Destination.Took (store, sink.destination) bytes
          ((sink.write store request).state.1, (sink.write store request).state.2.destination)

namespace Request

theorem emits_of_bytes {request : Request} {bytes : Bytes}
    (accepted : ∀ policy, (request.plan policy).fault = none)
    (same : ∀ policy, (request.plan policy).bytes = bytes) : request.Emits bytes := by
  intro store sink whole room
  rw [← same sink.policy] at room ⊢
  rcases Destination.deliver_of_room whole room with ⟨taken, took⟩
  simp only [Sink.write, Sink.carryOut, taken, accepted, Option.none_or]
  exact ⟨trivial, took⟩

/-- A request adds the same bytes everywhere. -/
theorem Emits.unique {request : Request} {first second : Bytes} (one : request.Emits first)
    (two : request.Emits second) : first = second := by
  have whole : (Destination.memory {}).IsWhole {} := trivial
  rcases (one {} ⟨.replace, none, .memory {}⟩ whole trivial).2.value_of_memory with
      ⟨memory, found, value⟩
  rcases (two {} ⟨.replace, none, .memory {}⟩ whole trivial).2.value_of_memory with
      ⟨other, again, same⟩
  rw [found] at again
  cases again
  exact List.append_cancel_left (value.symm.trans same)

end Request

namespace Varint

/-- A well-formed string of a number that is shorter than all others. -/
structure IsShortest (number : Nat) (bytes : Bytes) : Prop where
  wellFormed : WellFormed bytes
  denotes : value bytes = number
  least : ∀ other, WellFormed other → value other = number → other ≠ bytes →
    bytes.length < other.length

/-- A string that has no group of zeros above its highest group. -/
def IsTrimmed (bytes : Bytes) : Prop := bytes.length = 1 ∨ bytes.getLast? ≠ some 0

theorem wellFormed_cons_iff {group : UInt8} {rest : Bytes} (more : rest ≠ []) :
    WellFormed (group :: rest) ↔ 128 ≤ group.toNat ∧ WellFormed rest := by
  cases rest with
  | nil => exact absurd rfl more
  | cons second later => rfl

theorem WellFormed.ne_nil {bytes : Bytes} (formed : WellFormed bytes) : bytes ≠ [] := by
  rintro rfl
  exact formed

theorem wellFormed_encode (number : Nat) : WellFormed (encode number) := by
  fun_induction encode number with
  | case1 number small =>
      simp only [WellFormed, UInt8.toNat_ofNat']
      omega
  | case2 number large ih =>
      rw [wellFormed_cons_iff (encode_ne_nil _), UInt8.toNat_ofNat']
      exact ⟨by omega, ih⟩

theorem value_encode (number : Nat) : value (encode number) = number := by
  fun_induction encode number with
  | case1 number small =>
      simp only [value, UInt8.toNat_ofNat']
      omega
  | case2 number large ih =>
      simp only [value, UInt8.toNat_ofNat', ih]
      omega

theorem length_encode_le {number groups : Nat} (small : number < 128 ^ (groups + 1)) :
    (encode number).length ≤ groups + 1 := by
  induction groups generalizing number with
  | zero => simp [encode_of_lt (show number < 128 by simpa using small)]
  | succ groups ih =>
      rcases Nat.lt_or_ge number 128 with low | high
      · simp [encode_of_lt low]
      · have shifted : number / 128 < 128 ^ (groups + 1) :=
          Nat.div_lt_of_lt_mul (by rwa [← Nat.pow_succ'])
        rw [encode_of_le high, List.length_cons]
        exact Nat.succ_le_succ (ih shifted)

theorem length_encode_pos (number : Nat) : 1 ≤ (encode number).length :=
  List.length_pos_iff.mpr (encode_ne_nil number)

theorem value_lt (bytes : Bytes) : value bytes < 128 ^ bytes.length := by
  induction bytes with
  | nil => simp [value]
  | cons group rest ih =>
      rw [value, List.length_cons, Nat.pow_succ']
      omega

theorem value_append_zero (bytes : Bytes) : value (bytes ++ [0]) = value bytes := by
  induction bytes with
  | nil => rfl
  | cons group rest ih => rw [List.cons_append, value, ih, value]

/-- A trimmed string is the one that is written for what it denotes. -/
theorem encode_value {bytes : Bytes} (formed : WellFormed bytes) (trimmed : IsTrimmed bytes) :
    encode (value bytes) = bytes := by
  induction bytes with
  | nil => exact absurd rfl formed.ne_nil
  | cons group rest ih =>
      cases rest with
      | nil =>
          have small : group.toNat < 128 := formed
          simp only [value, Nat.mul_zero, Nat.add_zero, Nat.mod_eq_of_lt small]
          rw [encode_of_lt small, UInt8.ofNat_toNat]
      | cons second later =>
          rw [wellFormed_cons_iff (List.cons_ne_nil second later)] at formed
          have last : (second :: later).getLast? ≠ some 0 := by
            rcases trimmed with short | last
            · simp at short
            · simpa using last
          have inner := ih formed.2 (Or.inr last)
          -- a highest group of zeros is what trimmed strings do not have
          have positive : value (second :: later) ≠ 0 := by
            intro zero
            rw [zero, encode_of_lt (by decide)] at inner
            rw [← inner] at last
            exact last rfl
          have high := formed.1
          have below := group.toNat_lt
          have low : (group.toNat % 128 + 128 * value (second :: later)) % 128 + 128
              = group.toNat := by omega
          have rest : (group.toNat % 128 + 128 * value (second :: later)) / 128
              = value (second :: later) := by omega
          rw [value, encode_of_le (by omega), low, rest, inner, UInt8.ofNat_toNat]

/-- A trimmed string is shorter than every other of its value. -/
theorem isShortest_encode (number : Nat) : IsShortest number (encode number) where
  wellFormed := wellFormed_encode number
  denotes := value_encode number
  least := by
    rintro other formed rfl different
    by_cases trimmed : IsTrimmed other
    · exact absurd (encode_value formed trimmed).symm different
    · simp only [IsTrimmed, not_or, not_not] at trimmed
      rcases List.getLast?_eq_some_iff.mp trimmed.2 with ⟨front, rfl⟩
      have long : front.length ≠ 0 := by
        intro none
        exact trimmed.1 (by rw [List.length_append, none]; rfl)
      have bound := value_lt front
      rw [← Nat.sub_add_cancel (Nat.pos_of_ne_zero long)] at bound
      rw [value_append_zero, List.length_append, List.length_singleton]
      have fits := length_encode_le bound
      omega

/-- A well-formed string does not go on after its last byte. -/
theorem eq_of_isPrefix {first second : Bytes} (one : WellFormed first) (two : WellFormed second)
    (short : first <+: second) : first = second := by
  induction first generalizing second with
  | nil => exact absurd rfl one.ne_nil
  | cons group rest ih =>
      rcases short with ⟨later, rfl⟩
      cases rest with
      | nil =>
          cases later with
          | nil => rfl
          | cons next later =>
              have small : group.toNat < 128 := one
              have large := ((wellFormed_cons_iff (List.cons_ne_nil next later)).mp two).1
              omega
      | cons next rest =>
          rw [wellFormed_cons_iff (List.cons_ne_nil next rest)] at one
          rw [List.cons_append, wellFormed_cons_iff (by simp)] at two
          rw [List.cons_append, ← ih one.2 two.2 (List.prefix_append _ later)]

end Varint

namespace Request

open Varint

theorem emits_vint {value : Int} (fits : Word.Fits 32 value) :
    (vint value).Emits (encode (Word.unsigned 32 value)) :=
  emits_of_bytes (fun _ => (Plan.fault_vint_eq_none_iff value).mpr fits)
    (fun _ => Plan.bytes_vint fits)

theorem emits_vlong {number : Nat} (small : number < 2 ^ 63) :
    (vlong number).Emits (encode number) :=
  emits_of_bytes (fun _ => (Plan.fault_vlong_eq_none_iff number).mpr ⟨by omega, by omega⟩)
    (fun _ => Plan.bytes_vlong_natCast small)

theorem emits_zint64 {value : Int} (fits : Word.Fits 64 value) :
    (zint64 value).Emits (encode (Word.zigzag 64 value)) :=
  emits_of_bytes (fun _ => (Plan.fault_zint64_eq_none_iff value).mpr fits)
    (fun _ => Plan.bytes_zint64 fits)

/--
Integers of variable length are written as the shortest string of the number that they stand for,
and every well-formed string without a highest group of zeros is what is written for its value.
-/
theorem varints_shortest :
    (∀ value : Int, -2 ^ 31 ≤ value → value < 2 ^ 32 → ∃ bytes, (vint value).Emits bytes ∧
      IsShortest (value % 2 ^ 32).toNat bytes ∧ 1 ≤ bytes.length ∧ bytes.length ≤ 5) ∧
    (∀ value : Int, 0 ≤ value → value < 2 ^ 63 → ∃ bytes, (vlong value).Emits bytes ∧
      IsShortest value.toNat bytes ∧ 1 ≤ bytes.length ∧ bytes.length ≤ 9) ∧
    (∀ value : Int, -2 ^ 63 ≤ value → value < 2 ^ 64 → ∃ bytes, (zint64 value).Emits bytes ∧
      IsShortest (Word.zigzag 64 value) bytes ∧ 1 ≤ bytes.length ∧ bytes.length ≤ 10) ∧
    (∀ bytes, WellFormed bytes → bytes.length = 1 ∨ bytes.getLast? ≠ some 0 →
      (Varint.value bytes < 2 ^ 32 → (vint (Varint.value bytes)).Emits bytes) ∧
        (Varint.value bytes < 2 ^ 63 → (vlong (Varint.value bytes)).Emits bytes)) ∧
    ∀ first second, WellFormed first → WellFormed second → first <+: second → first = second := by
  refine ⟨?_, ?_, ?_, ?_, fun first second => eq_of_isPrefix⟩
  · intro value low high
    have reading : (value % 2 ^ 32).toNat = Word.unsigned 32 value := by
      rw [← Word.cast_unsigned, Int.toNat_natCast]
    have small := Word.unsigned_lt 32 value
    refine ⟨_, emits_vint ⟨low, high⟩, ?_, length_encode_pos _, ?_⟩
    · rw [reading]
      exact isShortest_encode _
    · exact @length_encode_le _ 4 (by omega)
  · intro value low high
    rcases Int.eq_ofNat_of_zero_le low with ⟨number, rfl⟩
    have small : number < 2 ^ 63 := by exact_mod_cast high
    exact ⟨_, emits_vlong small, isShortest_encode number, length_encode_pos _,
      @length_encode_le _ 8 (by omega)⟩
  · intro value low high
    have small := Word.zigzag_lt 64 value
    exact ⟨_, emits_zint64 ⟨low, high⟩, isShortest_encode _, length_encode_pos _,
      @length_encode_le _ 9 (by omega)⟩
  · intro bytes formed trimmed
    have same := encode_value formed trimmed
    constructor
    · intro small
      have emitted := emits_vint ((Plan.fits_natCast_iff 32 (Varint.value bytes)).mpr small)
      rwa [Word.unsigned_of_lt small, same] at emitted
    · intro small
      have emitted := emits_vlong small
      rwa [same] at emitted

/-- The least value that is accepted, and a string of two groups. -/
theorem varints_shortest_two_groups :
    (∃ bytes, (vint (-2 ^ 31)).Emits bytes ∧ IsShortest (2 ^ 31) bytes ∧ bytes.length ≤ 5) ∧
      (vlong 255).Emits [0xFF, 0x01] := by
  constructor
  · rcases varints_shortest.1 (-2 ^ 31) (by decide) (by decide) with
        ⟨bytes, emitted, shortest, -, few⟩
    exact ⟨bytes, emitted, shortest, few⟩
  · have formed : WellFormed [0xFF, 0x01] := ⟨by decide, show (1 : UInt8).toNat < 128 by decide⟩
    exact (varints_shortest.2.2.2.1 _ formed (Or.inr (by decide))).2 (by decide)

end Request

end IndexWire
