import IndexWire.Proofs.Store.Contents
import IndexWire.Source.Basic

/-!
# Reading from sources

A read depends on the store through the bytes of one place at most, the origin of the source, and
leaves the origin as it is. A source that holds enough bytes and gives at least one of them at each
read fills its target with the next of them, however many it gives at a time, and is then so many
bytes further on.
-/

namespace IndexWire

/-- What the bytes of a source are taken from. -/
inductive Origin where
  | own (content : Bytes)
  | stored (place : Place)

namespace Origin

/-- The bytes that there are at the moment. -/
def bytes (store : Store) : Origin → Bytes
  | own content => content
  | stored place => place.bytes store

/-- Whether the bytes do not change when a place of the store does. -/
def Avoids (origin : Origin) (other : Option Place) : Prop :=
  ∀ place, origin = .stored place → other ≠ some place

/-- Bytes of its own change with no place. -/
theorem avoids_own (content : Bytes) (other : Option Place) : (own content).Avoids other := by
  intro place stored
  cases stored

theorem bytes_eq_of_avoids {origin : Origin} {other : Option Place} {before after : Store}
    (avoids : origin.Avoids other)
    (same : ∀ place, other ≠ some place → place.bytes after = place.bytes before) :
    origin.bytes after = origin.bytes before := by
  cases origin with
  | own content => rfl
  | stored place => exact same place (avoids place rfl)

theorem length_le {before after : Store}
    (grown : ∀ place : Place, (place.bytes before).length ≤ (place.bytes after).length)
    (origin : Origin) : (origin.bytes before).length ≤ (origin.bytes after).length := by
  cases origin with
  | own content => exact Nat.le_refl _
  | stored place => exact grown place

end Origin

/-- What content is taken from. -/
def Content.origin : Content → Origin
  | own bytes => .own bytes
  | shared id => .stored (.buffer id)

theorem Content.bytes_origin (store : Store) (content : Content) :
    content.origin.bytes store = content.bytes store := by
  cases content <;> simp [origin, Origin.bytes, Place.bytes, Content.bytes]

namespace Reply

/-- Whether a device answers with at least one byte, if it has one. -/
def Gives : Reply → Prop
  | give limit => ∀ most ∈ limit, 0 < most
  | _ => False

end Reply

/-- A device that gives bytes at each read until it has given as many as told. -/
structure Reader.IsReady (count : Nat) (reader : Reader) : Prop where
  replies : ∀ reply ∈ reader.replies, reply.Gives
  later : reader.later.Gives
  reach : ∀ position ∈ reader.failAt, reader.position + count ≤ position

namespace Input

/-- What the bytes of a stream are taken from. -/
def origin : Input → Origin
  | reader device => device.data.origin
  | file location _ => .stored (.file location)

/-- How many bytes of the stream have been read. -/
def position : Input → Nat
  | reader device => device.position
  | file _ position => position

/-- Whether the stream answers each read with bytes until it has given as many as told. -/
def IsReady (count : Nat) : Input → Prop
  | reader device => device.IsReady count
  | file _ _ => True

/-- The bytes that have not been read yet. -/
def upcoming (store : Store) (input : Input) : Bytes :=
  (input.origin.bytes store).drop input.position

/-- A stream after as many bytes more of it have been read. -/
structure Advanced (count : Nat) (before after : Input) : Prop where
  origin : after.origin = before.origin
  position : after.position = before.position + count
  ready : ∀ more, before.IsReady (count + more) → after.IsReady more

@[simp]
theorem origin_read (store : Store) (input : Input) (wanted : Nat) :
    (input.read store wanted).1.origin = input.origin := by
  cases input with
  | file location position => rfl
  | reader device =>
      simp only [read, Reader.read, Reader.give]
      split
      · rfl
      · split <;> rfl

theorem origin_of_read {store : Store} {input changed : Input} {wanted : Nat}
    {answer : Except Fault Bytes} (read : input.read store wanted = (changed, answer)) :
    changed.origin = input.origin := by
  rw [← origin_read store input wanted, read]

theorem read_congr {before after : Store} {input : Input}
    (same : input.origin.bytes after = input.origin.bytes before) (wanted : Nat) :
    input.read after wanted = input.read before wanted := by
  cases input with
  | file location position =>
      change after.directory.content location = before.directory.content location at same
      simp only [read, same]
  | reader device =>
      simp only [origin, Content.bytes_origin] at same
      simp only [read, Reader.read, Reader.give, same]

/-- What every read keeps of a stream, filling a target keeps. -/
theorem fill_keeps {α : Type} {view : Input → α}
    (each : ∀ store input wanted, view (input.read store wanted).1 = view input) (store : Store)
    (input : Input) (shared : Option BufferId) (target : Memory) (room wanted filled : Nat) :
    view (input.fill store shared target room wanted filled).state.1 = view input := by
  fun_induction fill store input shared target room wanted filled with
  | case1 store input target room filled unfinished changed fault answer =>
      have kept := each store input (wanted - filled)
      rwa [answer] at kept
  | case2 store input target room filled unfinished changed answer =>
      have kept := each store input (wanted - filled)
      rwa [answer] at kept
  | case3 store input target room filled unfinished changed head tail answer size fits filledTo
      next ih =>
      have kept := each store input (wanted - filled)
      rw [answer] at kept
      exact ih.trans kept
  | case4 store input target room filled unfinished changed head tail answer size tooMany =>
      have kept := each store input (wanted - filled)
      rwa [answer] at kept
  | case5 => rfl

theorem origin_fill (store : Store) (input : Input) {shared : Option BufferId} (target : Memory)
    (room wanted filled : Nat) :
    (input.fill store shared target room wanted filled).state.1.origin = input.origin :=
  fill_keeps origin_read store input shared target room wanted filled

theorem fill_congr {before after : Store} {input : Input}
    (same : input.origin.bytes after = input.origin.bytes before) (target : Memory)
    (room wanted filled : Nat) :
    input.fill after none target room wanted filled
      = input.fill before none target room wanted filled := by
  fun_induction fill before input none target room wanted filled with
  | case1 store input target room filled unfinished changed fault answer =>
      rw [fill, dif_pos unfinished, read_congr same, answer]
  | case2 store input target room filled unfinished changed answer =>
      rw [fill, dif_pos unfinished, read_congr same, answer]
  | case3 store input target room filled unfinished changed head tail answer size fits filledTo
      next ih =>
      have kept := origin_of_read answer
      rw [fill, dif_pos unfinished, read_congr same, answer]
      exact (if_pos fits).trans (ih (by rw [kept]; exact same))
  | case4 store input target room filled unfinished changed head tail answer size tooMany =>
      rw [fill, dif_pos unfinished, read_congr same, answer]
      exact if_neg tooMany
  | case5 store input target room filled finished =>
      rw [fill, dif_neg finished]

/-- A target keeps its size, also where the stream ends or fails before it is full. -/
theorem length_fill (store : Store) (input : Input) (shared : Option BufferId) {target : Memory}
    {room : Nat} (inside : room ≤ target.after.length) (wanted filled : Nat) :
    (input.fill store shared target room wanted filled).state.2.buffer.length
      = target.buffer.length := by
  fun_induction fill store input shared target room wanted filled with
  | case1 => rfl
  | case2 => rfl
  | case3 store input target room filled unfinished changed head tail answer size fits filledTo
      next ih =>
      have whole : (head :: tail).length ≤ target.after.length := Nat.le_trans fits inside
      refine (ih ?_).trans (Memory.length_buffer_put whole)
      simp only [filledTo, Memory.put, List.length_drop, List.length_cons]
      omega
  | case4 => rfl
  | case5 => rfl

theorem Advanced.refl (input : Input) : Advanced 0 input input where
  origin := rfl
  position := rfl
  ready more ready := by
    rwa [Nat.zero_add] at ready

theorem Advanced.trans {first second : Nat} {before middle after : Input}
    (one : Advanced first before middle) (two : Advanced second middle after) :
    Advanced (first + second) before after where
  origin := two.origin.trans one.origin
  position := by
    rw [two.position, one.position, Nat.add_assoc]
  ready more ready := by
    rw [Nat.add_assoc] at ready
    exact two.ready more (one.ready (second + more) ready)

theorem Advanced.upcoming {count : Nat} {before after : Input}
    (advanced : Advanced count before after) (store : Store) :
    after.upcoming store = (before.upcoming store).drop count := by
  rw [Input.upcoming, Input.upcoming, advanced.origin, advanced.position, List.drop_drop]

theorem IsReady.mono {count fewer : Nat} (less : fewer ≤ count) {input : Input}
    (ready : input.IsReady count) : input.IsReady fewer := by
  cases input with
  | file location position => trivial
  | reader device =>
      refine ⟨ready.replies, ready.later, fun position failing => ?_⟩
      exact Nat.le_trans (Nat.add_le_add_left less device.position) (ready.reach position failing)

/--
A stream that is ready and has not ended gives at least one byte, and none that was not asked for.
-/
theorem read_of_ready {store : Store} {input : Input} {wanted : Nat} (positive : 0 < wanted)
    (ready : input.IsReady 1) (goesOn : 0 < (input.upcoming store).length) :
    ∃ changed size, 0 < size ∧ size ≤ wanted ∧ size ≤ (input.upcoming store).length ∧
      input.read store wanted = (changed, .ok ((input.upcoming store).take size)) ∧
        Advanced size input changed := by
  cases input with
  | file location position =>
      have size := List.length_take (i := wanted) (l := (file location position).upcoming store)
      refine ⟨file location (position + min wanted _), min wanted _,
        Nat.lt_min.mpr ⟨positive, goesOn⟩, Nat.min_le_left _ _, Nat.min_le_right _ _, ?_, rfl, rfl,
        fun more ready => trivial⟩
      rw [← List.take_eq_take_min, ← size]
      rfl
  | reader device =>
      have next : (device.replies.headD device.later).Gives := by
        cases replies : device.replies with
        | nil => exact ready.later
        | cons reply rest => exact ready.replies reply (by simp [replies])
      have reached : (device.failAt.any fun position => device.position ≥ position) = false := by
        cases failing : device.failAt with
        | none => rfl
        | some position =>
            have beyond := ready.reach position failing
            simp only [Option.any_some, decide_eq_false_iff_not]
            omega
      cases answer : device.replies.headD device.later with
      | nothing =>
          rw [answer] at next
          exact False.elim next
      | fail fault =>
          rw [answer] at next
          exact False.elim next
      | give limit =>
          rw [answer] at next
          have asked : 0 < min wanted (limit.getD wanted) := by
            cases limit with
            | none => exact Nat.lt_min.mpr ⟨positive, positive⟩
            | some most => exact Nat.lt_min.mpr ⟨positive, next most rfl⟩
          have size := List.length_take (i := min wanted (limit.getD wanted))
            (l := (reader device).upcoming store)
          refine ⟨.reader { device with
              position := device.position
                + min (min wanted (limit.getD wanted)) ((reader device).upcoming store).length
              replies := device.replies.drop 1
              asked := wanted :: device.asked },
            min (min wanted (limit.getD wanted)) _, Nat.lt_min.mpr ⟨asked, goesOn⟩,
            Nat.le_trans (Nat.min_le_left _ _) (Nat.min_le_left _ _), Nat.min_le_right _ _, ?_, ?_⟩
          · rw [← List.take_eq_take_min, ← size]
            simp only [Input.read, Reader.read, reached, answer, Reader.give, Bool.false_eq_true,
              if_false, upcoming, origin, position, Content.bytes_origin]
          · refine ⟨rfl, rfl, fun more ready => ⟨?_, ready.later, ?_⟩⟩
            · exact fun reply mem => ready.replies reply (List.mem_of_mem_drop mem)
            · intro position failing
              have beyond := ready.reach position failing
              simp only
              omega

/-- A stream that is ready fills its target with its next bytes. -/
theorem fill_of_ready {store : Store} {input : Input} (wanted filled : Nat)
    (ready : input.IsReady (wanted - filled))
    (enough : wanted - filled ≤ (input.upcoming store).length) (target : Memory) :
    ∃ changed,
      input.fill store none target (wanted - filled) wanted filled
          = { state :=
                (changed, target.put ((input.upcoming store).take (wanted - filled))) } ∧
        Advanced (wanted - filled) input changed := by
  -- by what is left to be filled: each read takes some of it, and how much is up to the stream
  generalize left : wanted - filled = count at ready enough ⊢
  induction count using Nat.strongRecOn generalizing input filled target with
  | ind count ih =>
      rcases Nat.eq_zero_or_pos count with rfl | positive
      · refine ⟨input, ?_, Advanced.refl input⟩
        rw [fill, dif_neg (by omega), List.take_zero, Memory.put_nil]
      · rcases read_of_ready positive (ready.mono positive) (Nat.lt_of_lt_of_le positive enough)
          with ⟨changed, size, given, fits, inside, answer, advanced⟩
        have length := List.length_take_of_le inside
        have later := advanced.ready (count - size) (by rwa [Nat.add_sub_cancel' fits])
        have rest : count - size ≤ (changed.upcoming store).length := by
          rw [advanced.upcoming, List.length_drop]
          omega
        rcases ih (count - size) (by omega) (filled + size)
            (target.put ((input.upcoming store).take size))
            (by omega : wanted - (filled + size) = count - size) later rest with
            ⟨last, complete, further⟩
        refine ⟨last, ?_, ?_⟩
        · rw [Memory.put_put, advanced.upcoming, ← List.take_add, Nat.add_sub_cancel' fits]
            at complete
          rw [← complete, fill, dif_pos (by omega), left, answer]
          generalize (input.upcoming store).take size = chunk at length ⊢
          cases chunk with
          | nil => exact absurd length (Nat.ne_of_lt given)
          | cons head tail =>
              obtain rfl : tail.length + 1 = size := length
              exact if_pos fits
        · have total := advanced.trans further
          rwa [Nat.add_sub_cancel' fits] at total

end Input

namespace Source

/-- What the bytes of a source are taken from. -/
def origin : Source → Origin
  | memory content _ => content.origin
  | stream input => input.origin

/-- Where the next byte of a source stands. -/
def position : Source → Int
  | memory _ position => position
  | stream input => input.position

/-- The bytes that have not been read yet. -/
def upcoming (store : Store) (source : Source) : Bytes :=
  (source.origin.bytes store).drop source.position.toNat

/-- Whether a source stands in its bytes with as many of them left, and gives them. -/
def Holds (store : Store) (count : Nat) : Source → Prop
  | memory content position => 0 ≤ position ∧ position + count ≤ (content.bytes store).length
  | stream input => input.IsReady count ∧ count ≤ (input.upcoming store).length

/-- A source after as many bytes more of it have been read. -/
structure Advanced (store : Store) (count : Nat) (before after : Source) : Prop where
  origin : after.origin = before.origin
  position : after.position = before.position + count
  holds : ∀ more, before.Holds store (count + more) → after.Holds store more

variable {store : Store}

theorem Holds.mono {source : Source} {count fewer : Nat} (less : fewer ≤ count)
    (holds : source.Holds store count) : source.Holds store fewer := by
  cases source with
  | memory content position => exact ⟨holds.1, by have enough := holds.2; omega⟩
  | stream input =>
      rcases holds with ⟨ready, enough⟩
      exact ⟨ready.mono less, Nat.le_trans less enough⟩

theorem Holds.congr {before after : Store} {source : Source} {count : Nat}
    (same : source.origin.bytes after = source.origin.bytes before)
    (holds : source.Holds before count) : source.Holds after count := by
  cases source with
  | memory content position =>
      simp only [origin, Content.bytes_origin] at same
      exact ⟨holds.1, by rw [same]; exact holds.2⟩
  | stream input =>
      simp only [origin] at same
      exact ⟨holds.1, by rw [Input.upcoming, same]; exact holds.2⟩

/-- A source goes on to hold bytes where no place of the store loses any. -/
theorem Holds.of_grown {before after : Store}
    (grown : ∀ place : Place, (place.bytes before).length ≤ (place.bytes after).length)
    {source : Source} {count : Nat} (holds : source.Holds before count) :
    source.Holds after count := by
  cases source with
  | memory content position =>
      have more := Origin.length_le grown content.origin
      rw [Content.bytes_origin, Content.bytes_origin] at more
      refine ⟨holds.1, Int.le_trans holds.2 ?_⟩
      exact Int.ofNat_le.mpr more
  | stream input =>
      have more := Origin.length_le grown input.origin
      refine ⟨holds.1, Nat.le_trans holds.2 ?_⟩
      simp only [Input.upcoming, List.length_drop]
      exact Nat.sub_le_sub_right more _

theorem Holds.le_length_upcoming {source : Source} {count : Nat}
    (holds : source.Holds store count) : count ≤ (source.upcoming store).length := by
  cases source with
  | memory content position =>
      rcases holds with ⟨inside, enough⟩
      simp only [upcoming, origin, Content.bytes_origin, Source.position, List.length_drop]
      omega
  | stream input => exact holds.2

theorem Holds.position_nonneg {source : Source} {count : Nat}
    (holds : source.Holds store count) : 0 ≤ source.position := by
  cases source with
  | memory content position => exact holds.1
  | stream input => exact Int.natCast_nonneg input.position

theorem Advanced.refl (source : Source) : Advanced store 0 source source where
  origin := rfl
  position := (Int.add_zero source.position).symm
  holds more holds := by
    rwa [Nat.zero_add] at holds

theorem Advanced.trans {first second : Nat} {before middle after : Source}
    (one : Advanced store first before middle) (two : Advanced store second middle after) :
    Advanced store (first + second) before after where
  origin := two.origin.trans one.origin
  position := by
    rw [two.position, one.position, Int.natCast_add, Int.add_assoc]
  holds more holds := by
    rw [Nat.add_assoc] at holds
    exact two.holds more (one.holds (second + more) holds)

theorem Advanced.upcoming {count : Nat} {before after : Source}
    (advanced : Advanced store count before after) (inside : 0 ≤ before.position) :
    after.upcoming store = (before.upcoming store).drop count := by
  have further : (before.position + count).toNat = before.position.toNat + count := by omega
  rw [Source.upcoming, Source.upcoming, advanced.origin, advanced.position, List.drop_drop,
    further]

theorem origin_readInto (source : Source) {shared : Option BufferId} (target : Buffer)
    (offset length : Int) :
    (source.readInto store shared target offset length).state.1.origin = source.origin := by
  cases source with
  | memory content position =>
      simp only [readInto]
      split
      · rfl
      · split <;> rfl
  | stream input => exact Input.origin_fill store input _ _ _ _

theorem readInto_congr {before after : Store} {source : Source}
    (same : source.origin.bytes after = source.origin.bytes before) (target : Buffer)
    (offset length : Int) :
    source.readInto after none target offset length
      = source.readInto before none target offset length := by
  cases source with
  | memory content position =>
      simp only [origin, Content.bytes_origin] at same
      have left : remaining after content position = remaining before content position := by
        rw [remaining, remaining, same]
      simp only [readInto]
      rw [left, same]
  | stream input =>
      simp only [readInto, Input.fill_congr same]

theorem readInto_memory_of_holds {content : Content} {position : Int} {count : Nat}
    (holds : (memory content position).Holds store count) (target : Buffer)
    (fits : count ≤ target.bytes.length) :
    (memory content position).readInto store none target 0 count
      = { state :=
            (memory content (position + count),
              { target with
                bytes := ((memory content position).upcoming store).take count
                  ++ target.bytes.drop count }) } := by
  rcases holds with ⟨inside, enough⟩
  rcases Int.eq_ofNat_of_zero_le inside with ⟨start, rfl⟩
  have next : (memory content start).upcoming store = (content.bytes store).drop start := by
    simp only [upcoming, origin, Content.bytes_origin, Source.position, Int.toNat_natCast]
  have read : (content.bytes store).slice start (start + count)
      = ((memory content start).upcoming store).take count := by
    rw [next]
    exact Bytes.slice_of_le (by omega)
  have whole : (((memory content start).upcoming store).take count).length = count := by
    rw [next, List.length_take, List.length_drop]
    omega
  have written := Buffer.splice_front (Nat.le_trans (Nat.le_of_eq whole) fits)
  rw [whole] at written
  have left : ¬(count : Int) > remaining store content start := by
    unfold remaining
    omega
  simp only [readInto, if_neg left, read, written]

theorem readInto_stream_of_holds {input : Input} {count : Nat}
    (holds : (stream input).Holds store count) (target : Buffer)
    (fits : count ≤ target.bytes.length) :
    ∃ changed,
      (stream input).readInto store none target 0 count
          = { state :=
                (stream changed,
                  { target with
                    bytes := (input.upcoming store).take count ++ target.bytes.drop count }) } ∧
        Input.Advanced count input changed := by
  rcases holds with ⟨ready, enough⟩
  have whole : ((input.upcoming store).take count).length = count :=
    List.length_take_of_le enough
  rcases Input.fill_of_ready count 0 ready enough (.ofBytes target.bytes 0) with
      ⟨changed, filled, advanced⟩
  rw [Nat.sub_zero] at filled advanced
  have first : Bytes.clip target.bytes.length 0 = 0 := by
    simpa using Bytes.clip_of_le (Nat.zero_le target.bytes.length)
  have last : Bytes.clip target.bytes.length (0 + count) = count := by
    rw [Int.zero_add, Bytes.clip_of_le fits]
  have same : ((Memory.ofBytes target.bytes 0).put ((input.upcoming store).take count)).buffer
      = (input.upcoming store).take count ++ target.bytes.drop count := by
    generalize (input.upcoming store).take count = chunk at whole ⊢
    simp [Memory.buffer, Memory.put, Memory.ofBytes, Memory.value, whole]
  refine ⟨changed, ?_, advanced⟩
  simp only [readInto, first, last, Nat.sub_zero, Int.toNat_natCast, filled, Attempt.map]
  rw [same]

theorem eq_file_of_origin {source : Source} {location : Location}
    (origin : source.origin = .stored (.file location)) :
    ∃ position, source = .stream (.file location position) := by
  cases source with
  | memory content position => cases content <;> cases origin
  | stream input =>
      cases input with
      | file other position =>
          cases origin
          exact ⟨position, rfl⟩
      | reader device =>
          rcases device with ⟨data, isView, position, replies, later, failAt, failure, asked⟩
          cases data <;> cases origin

/-- A source that holds enough bytes puts the next of them before the rest of the target. -/
theorem readInto_of_holds {source : Source} {count : Nat} (holds : source.Holds store count)
    (target : Buffer) (fits : count ≤ target.bytes.length) :
    ∃ changed,
      source.readInto store none target 0 count
          = { state :=
                (changed,
                  { target with
                    bytes := (source.upcoming store).take count ++ target.bytes.drop count }) } ∧
        Advanced store count source changed := by
  cases source with
  | memory content position =>
      refine ⟨_, readInto_memory_of_holds holds target fits, rfl, rfl, ?_⟩
      rintro more ⟨inside, enough⟩
      have positive : 0 ≤ position + count := Int.add_nonneg inside (Int.natCast_nonneg count)
      exact ⟨positive, by push_cast at enough; omega⟩
  | stream input =>
      rcases readInto_stream_of_holds holds target fits with ⟨changed, read, advanced⟩
      refine ⟨.stream changed, read, advanced.origin, ?_, ?_⟩
      · simp only [Source.position, advanced.position, Int.natCast_add]
      · rintro more ⟨ready, enough⟩
        refine ⟨advanced.ready more ready, ?_⟩
        rw [advanced.upcoming, List.length_drop]
        omega

/-- A read inside the target keeps its size, whether it fails or not. -/
theorem length_readInto {source : Source} (inside : 0 ≤ source.position) {target : Buffer}
    {count : Nat} (fits : count ≤ target.bytes.length) :
    (source.readInto store none target 0 count).state.2.bytes.length = target.bytes.length ∧
      0 ≤ (source.readInto store none target 0 count).state.1.position := by
  cases source with
  | memory content position =>
      by_cases enough : (count : Int) > remaining store content position
      · simp only [readInto, if_pos enough, Attempt.failed]
        exact ⟨trivial, inside⟩
      · have holds : (memory content position).Holds store count := by
          refine ⟨inside, ?_⟩
          unfold remaining at enough
          omega
        rcases readInto_of_holds holds target fits with ⟨changed, read, advanced⟩
        have block := List.length_take_of_le holds.le_length_upcoming
        rw [read]
        refine ⟨?_, ?_⟩
        · simp only [List.length_append, block, List.length_drop]
          omega
        · have further := advanced.position
          simp only [further]
          exact Int.add_nonneg inside (Int.natCast_nonneg count)
  | stream input =>
      refine ⟨?_, Int.natCast_nonneg _⟩
      have size : Bytes.clip target.bytes.length (0 + count) - Bytes.clip target.bytes.length 0
          ≤ (Memory.ofBytes target.bytes (Bytes.clip target.bytes.length 0)).after.length := by
        simp only [Memory.ofBytes, List.length_drop]
        exact Nat.sub_le_sub_right (Bytes.clip_le _ _) _
      have kept := Input.length_fill store input none size (count : Int).toNat 0
      rw [Memory.buffer_ofBytes] at kept
      exact kept

end Source

end IndexWire
