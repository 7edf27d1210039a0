import IndexWire.Proofs.Source.Reading

/-!
# Reading beyond the end

What a source does when it is asked for more bytes than it has left. A source in memory gives none
of them and stays where it is; a stream gives all that it has, and then says that it has ended, or
fails in its own words if it fails there.
-/

namespace IndexWire

/-- What no read changes about a source, apart from what its bytes are taken from. -/
inductive Limit where
  | memory
  /-- The position from which on a stream fails, and the fault. -/
  | stream (failAt : Option Nat) (failure : Fault)
deriving DecidableEq

namespace Limit

/--
What a source that ends at a position says when it is asked for more bytes than it has left there.
-/
def shortage (stop : Int) (wanted left : Nat) : Limit → Fault
  | memory => .tooFewLeft wanted left
  | stream failAt failure =>
    if failAt.any fun position : Nat => (position : Int) ≤ stop then failure
    else .streamEnded left wanted

/-- How many of the bytes that are left are read all the same. -/
def spent (left : Nat) : Limit → Nat
  | memory => 0
  | stream _ _ => left

end Limit

namespace Input

def limit : Input → Limit
  | reader device => .stream device.failAt device.failure
  | file _ _ => .stream none .closed

variable {store : Store} {input : Input}

@[simp]
theorem limit_read (store : Store) (input : Input) (wanted : Nat) :
    (input.read store wanted).1.limit = input.limit := by
  cases input with
  | file location position => rfl
  | reader device =>
      simp only [read, Reader.read, Reader.give]
      split
      · rfl
      · split <;> rfl

/-- At its end a stream gives nothing, or fails, and stays where it is. -/
theorem read_of_ended (ready : input.IsReady 0) (ended : input.upcoming store = []) (wanted : Nat) :
    (input.read store wanted).1.position = input.position ∧
      ((input.read store wanted).2 = .ok [] ∧
          (∀ wanted left,
            input.limit.shortage input.position wanted left = .streamEnded left wanted)
        ∨ ∃ fault, (input.read store wanted).2 = .error fault ∧
          ∀ wanted left, input.limit.shortage input.position wanted left = fault) := by
  cases input with
  | file location position =>
      have none : ((store.directory.content location).drop position).take wanted = [] := by
        rw [show (store.directory.content location).drop position = [] from ended, List.take_nil]
      simp only [read, none, limit, Limit.shortage]
      exact ⟨rfl, Or.inl ⟨trivial, fun wanted left => rfl⟩⟩
  | reader device =>
      have gives : (device.replies.headD device.later).Gives := by
        cases replies : device.replies with
        | nil => exact ready.later
        | cons reply rest => exact ready.replies reply (by simp [replies])
      have none : (device.data.bytes store).drop device.position = [] := by
        rw [← Content.bytes_origin]
        exact ended
      simp only [read, Reader.read, limit, Limit.shortage, Input.position, Int.ofNat_le, ge_iff_le]
      cases failing : device.failAt.any fun position => position ≤ device.position with
      | true => exact ⟨rfl, Or.inr ⟨device.failure, rfl, fun wanted left => rfl⟩⟩
      | false =>
          cases answer : device.replies.headD device.later with
          | nothing => exact (answer ▸ gives).elim
          | fail fault => exact (answer ▸ gives).elim
          | give limit =>
              simp only [Reader.give, none, List.take_nil, List.length_nil, Nat.add_zero]
              exact ⟨rfl, Or.inl ⟨rfl, fun wanted left => rfl⟩⟩

/-- A stream that ends before its target is full gives all of its bytes, and then says so. -/
theorem fill_of_short {left wanted filled room : Nat} (ready : input.IsReady left)
    (ends : (input.upcoming store).length = left) (short : left < wanted - filled)
    (fits : left ≤ room) (target : Memory) :
    let attempt := input.fill store none target room wanted filled
    attempt.fault = some (input.limit.shortage (input.position + left) wanted (filled + left)) ∧
      attempt.state.1.position = input.position + left := by
  -- by what is left of the stream: each read gives some of it, until nothing is left
  induction left using Nat.strongRecOn generalizing input filled room target with
  | ind left ih =>
      have unfinished : filled < wanted := by omega
      have unread : 0 < wanted - filled := by omega
      rcases Nat.eq_zero_or_pos left with rfl | positive
      · have answered := read_of_ended ready (List.eq_nil_of_length_eq_zero ends) (wanted - filled)
        rw [fill, dif_pos unfinished]
        rcases read : input.read store (wanted - filled) with ⟨changed, answer⟩
        rw [read] at answered
        rcases answered with ⟨stays, ⟨rfl, wording⟩ | ⟨fault, rfl, wording⟩⟩
        · exact ⟨congrArg some (wording wanted filled).symm, stays⟩
        · exact ⟨congrArg some (wording wanted filled).symm, stays⟩
      · rcases read_of_ready unread (ready.mono positive) (ends ▸ positive) with
            ⟨changed, size, given, asked, inside, answer, advanced⟩
        have length := List.length_take_of_le inside
        rw [ends] at inside
        have rest : (changed.upcoming store).length = left - size := by
          rw [advanced.upcoming, List.length_drop, ends]
        have later := advanced.ready (left - size) (by rwa [Nat.add_sub_cancel' inside])
        have kept : changed.limit = input.limit := by
          rw [← limit_read store input (wanted - filled), answer]
        have stop : (changed.position : Int) + (left - size : Nat) = input.position + left := by
          rw [advanced.position]
          omega
        rw [fill, dif_pos unfinished, answer]
        generalize (input.upcoming store).take size = chunk at length
        cases chunk with
        | nil => exact absurd length (Nat.ne_of_lt given)
        | cons head tail =>
            obtain rfl : tail.length + 1 = size := length
            rcases ih _ (by omega) later rest
              (by omega : left - (tail.length + 1) < wanted - (filled + (tail.length + 1)))
              (by omega : left - (tail.length + 1) ≤ room - (tail.length + 1))
              (target.put (head :: tail)) with ⟨fault, position⟩
            simp only [if_pos (Nat.le_trans inside fits), Option.elim_none]
            rw [kept, stop, Nat.add_assoc, Nat.add_sub_cancel' inside] at fault
            refine ⟨fault, position.trans ?_⟩
            omega

end Input

namespace Source

def limit : Source → Limit
  | memory _ _ => .memory
  | stream input => input.limit

/-- Whether a source has as many bytes before its end, and gives them. -/
structure Ends (store : Store) (available : Nat) (source : Source) : Prop where
  holds : source.Holds store available
  ends : (source.upcoming store).length = available

variable {store : Store} {source : Source}

theorem limit_readInto (store : Store) (source : Source) (shared : Option BufferId)
    (target : Buffer) (offset length : Int) :
    (source.readInto store shared target offset length).state.1.limit = source.limit := by
  cases source with
  | memory content position =>
      simp only [readInto]
      split
      · rfl
      · split <;> rfl
  | stream input => exact Input.fill_keeps Input.limit_read store input _ _ _ _ _

/-- A source has fewer bytes left after it has advanced, and goes on to end where it did. -/
theorem Ends.advanced {available count : Nat} {after : Source} (ends : source.Ends store available)
    (less : count ≤ available) (advanced : Advanced store count source after) :
    after.Ends store (available - count) where
  holds := advanced.holds _ (by rw [Nat.add_sub_cancel' less]; exact ends.holds)
  ends := by
    rw [advanced.upcoming ends.holds.position_nonneg, List.length_drop, ends.ends]

/-- A range that is larger than what a source has left is not read, and the source says so. -/
theorem readInto_of_short {left count : Nat} {target : Buffer} (ends : source.Ends store left)
    (short : left < count) (fits : count ≤ target.bytes.length) :
    let attempt := source.readInto store none target 0 count
    attempt.fault = some (source.limit.shortage (source.position + left) count left) ∧
      attempt.state.1.position = source.position + source.limit.spent left := by
  rcases ends with ⟨holds, ends⟩
  cases source with
  | memory content position =>
      rcases Int.eq_ofNat_of_zero_le holds.1 with ⟨start, rfl⟩
      have few : remaining store content start = left := by
        simp only [upcoming, origin, Content.bytes_origin, Source.position, List.length_drop,
          Int.toNat_natCast] at ends
        have inside := holds.2
        unfold remaining
        omega
      simp only [readInto, few]
      rw [if_pos (Int.ofNat_lt.mpr short)]
      exact ⟨rfl, (Int.add_zero _).symm⟩
  | stream input =>
      have first : Bytes.clip target.bytes.length 0 = 0 := by
        simpa using Bytes.clip_of_le (Nat.zero_le target.bytes.length)
      have last : Bytes.clip target.bytes.length (0 + count) = count := by
        rw [Int.zero_add, Bytes.clip_of_le fits]
      rcases @Input.fill_of_short store input left count 0 count holds.1 ends short
        (Nat.le_of_lt short) (.ofBytes target.bytes 0) with ⟨fault, position⟩
      rw [Nat.zero_add] at fault
      simp only [readInto, first, last, Nat.sub_zero, Int.toNat_natCast, Attempt.map]
      refine ⟨fault, ?_⟩
      have spent : (stream input).limit.spent left = left := by cases input <;> rfl
      rw [spent]
      simp only [Source.position]
      exact_mod_cast position

end Source

end IndexWire
