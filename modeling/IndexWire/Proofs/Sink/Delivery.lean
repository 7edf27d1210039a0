import IndexWire.Proofs.Store.Contents
import IndexWire.Sink.Destination

/-!
# Delivery

What a destination does with the pieces that it is handed. One that keeps whole pieces takes a piece
when it has room for it and leaves everything as it is otherwise, and so a delivery takes the pieces
in order up to the first for which there is no room.

`Took` tells all that the bytes taken do to a destination and to the store, except how they were cut
into pieces: a device and a recorder log each piece, and a file gets small ones later than large
ones.
-/

namespace IndexWire

/-- What no piece changes about a destination: its kind, and what it writes to. -/
inductive Site where
  | memory
  | counter
  | region (buffer : BufferId) (start stop : Nat)
  | writer
  | file (location : Location)
  | recorder
deriving DecidableEq

/-- The place of the store that is written to, if there is one. -/
def Site.place? : Site → Option Place
  | region id _ _ => some (.buffer id)
  | file location => some (.file location)
  | _ => none

/-- A window inside a buffer, with the cursor inside the window. -/
structure Region.IsPlaced (store : Store) (region : Region) : Prop where
  made : region.buffer < store.buffers.length
  low : region.start ≤ region.position
  high : region.position ≤ region.stop
  inside : region.stop ≤ (store.buffer region.buffer).bytes.length

namespace Region

variable {store : Store} {region : Region}

theorem put_of_room (placed : region.IsPlaced store) {piece : Piece}
    (room : region.position + piece.bytes.length ≤ region.stop) :
    region.put (store.buffer region.buffer) piece
      = .ok ({ region with position := region.position + piece.bytes.length },
          { store.buffer region.buffer with
            bytes := (store.buffer region.buffer).bytes.splice region.position
              (region.position + piece.bytes.length : Nat) piece.bytes }) := by
  have inside := placed.inside
  have high := placed.high
  cases piece with
  | byte value =>
      have below : ¬region.position ≥ region.stop := by
        simp only [Piece.bytes, List.length_singleton] at room
        omega
      have within : region.position < (store.buffer region.buffer).bytes.length := by omega
      simp only [put, putByte, if_neg below, Buffer.set, if_pos within, Except.map, Piece.bytes,
        List.length_singleton, Bytes.splice_singleton within]
  | range content =>
      simp only [Piece.bytes] at room ⊢
      have enough : ¬content.length > region.remaining := by
        unfold remaining
        omega
      have fits : region.position + content.length ≤ (store.buffer region.buffer).bytes.length := by
        omega
      have same := Bytes.length_splice_of_le fits
      simp only [put, putRange, if_neg enough, Buffer.splice, same, ne_eq, not_true_eq_false,
        false_and, if_false, Except.map]

theorem put_of_no_room (placed : region.IsPlaced store) {piece : Piece}
    (full : ¬region.position + piece.bytes.length ≤ region.stop) :
    ∃ fault, region.put (store.buffer region.buffer) piece = .error fault := by
  have high := placed.high
  cases piece with
  | byte value =>
      have closed : region.position ≥ region.stop := by
        simp only [Piece.bytes, List.length_singleton] at full
        omega
      exact ⟨_, if_pos closed⟩
  | range content =>
      have tooMany : content.length > region.remaining := by
        simp only [Piece.bytes] at full
        unfold remaining
        omega
      exact ⟨_, if_pos tooMany⟩

theorem length_le_put {region changed : Region} {before after : Buffer} {piece : Piece}
    (taken : region.put before piece = .ok (changed, after)) :
    before.bytes.length ≤ after.bytes.length := by
  cases piece with
  | byte value =>
      simp only [put, putByte] at taken
      split at taken
      · cases taken
      · unfold Buffer.set at taken
        split at taken
        · cases taken
          simp
        · cases taken
  | range content =>
      simp only [put, putRange] at taken
      split at taken
      · cases taken
      · unfold Buffer.splice at taken
        simp only at taken
        split at taken
        · cases taken
        · cases taken
          exact Bytes.length_le_length_splice _ _ _

end Region

section Budget

variable {budget : Option Nat} {taken more : Nat}

theorem any_budget_of_within (within : ∀ most ∈ budget, taken + more ≤ most) :
    (budget.any fun most => taken + more > most) = false := by
  cases budget with
  | none => rfl
  | some most => simpa using within most rfl

theorem any_budget_of_beyond (beyond : ¬∀ most ∈ budget, taken + more ≤ most) :
    (budget.any fun most => taken + more > most) = true := by
  cases budget with
  | none => exact absurd (by simp) beyond
  | some most => simpa using beyond

end Budget

theorem Writer.write_of_room {device : Writer} (whole : device.limit = none)
    (opened : device.isClosed = false) {bytes : Bytes}
    (within : ∀ budget ∈ device.budget, device.taken.length + bytes.length ≤ budget) :
    device.write bytes
      = { state :=
            { device with
              taken := bytes.reverse ++ device.taken
              asked := bytes.length :: device.asked } } := by
  simp [write, whole, opened, any_budget_of_within within]

theorem Writer.write_of_no_room {device : Writer} (opened : device.isClosed = false)
    {bytes : Bytes}
    (beyond : ¬∀ budget ∈ device.budget, device.taken.length + bytes.length ≤ budget) :
    device.write bytes
      = .failed { device with asked := bytes.length :: device.asked } device.refusal := by
  simp [write, opened, any_budget_of_beyond beyond]

theorem Recorder.put_of_room {recorder : Recorder} {piece : Piece}
    (within : ∀ budget ∈ recorder.budget, recorder.taken.length + piece.bytes.length ≤ budget) :
    recorder.put piece
      = { state :=
            { recorder with
              taken := piece.bytes.reverse ++ recorder.taken
              handed := piece :: recorder.handed } } := by
  simp [put, any_budget_of_within within]

theorem Recorder.put_of_no_room {recorder : Recorder} {piece : Piece}
    (beyond : ¬∀ budget ∈ recorder.budget,
      recorder.taken.length + piece.bytes.length ≤ budget) :
    recorder.put piece
      = .failed { recorder with handed := piece :: recorder.handed } recorder.refusal := by
  simp [put, any_budget_of_beyond beyond]

namespace Destination

/-- What a destination writes to. -/
def site : Destination → Site
  | memory _ => .memory
  | counter _ => .counter
  | region target => .region target.buffer target.start target.stop
  | stream target =>
    match target.device with
    | .writer _ => .writer
    | .file file => .file file.location
  | recorder _ => .recorder

/-- The bytes that a destination writes over, with the cursor; a counter has none. -/
def contents (store : Store) : Destination → Option Memory
  | memory target => some target
  | counter _ => none
  | region target => some (.ofBytes (store.buffer target.buffer).bytes target.position)
  | stream target =>
    match target.device with
    | .writer device => some { before := device.taken }
    | .file file => some (file.contents store)
  | recorder target => some { before := target.taken }

/-- Whether a destination keeps each piece that it takes as a whole. -/
def IsWhole (store : Store) : Destination → Prop
  | region target => target.IsPlaced store
  | stream target =>
    match target.device with
    | .writer device => device.limit = none
    | .file file => file.IsSound store
  | _ => True

/-- Whether a destination takes as many bytes more. -/
def HasRoom (count : Nat) : Destination → Prop
  | region target => target.position + count ≤ target.stop
  | stream target =>
    match target.device with
    | .writer device =>
        device.isClosed = false ∧
          ∀ budget ∈ device.budget, device.taken.length + count ≤ budget
    | .file file => file.isClosed = false
  | recorder target => ∀ budget ∈ target.budget, target.taken.length + count ≤ budget
  | _ => True

/-- What bytes do to a destination that takes them, and to the store. -/
structure Took (before : Store × Destination) (bytes : Bytes) (after : Store × Destination) :
    Prop where
  contents : after.2.contents after.1 = (before.2.contents before.1).map (·.put bytes)
  count : after.2.count = before.2.count + bytes.length
  site : after.2.site = before.2.site
  others : ∀ place, before.2.site.place? ≠ some place →
    place.bytes after.1 = place.bytes before.1
  whole : after.2.IsWhole after.1
  room : ∀ more, before.2.HasRoom (bytes.length + more) → after.2.HasRoom more

namespace Took

theorem nil {store : Store} {destination : Destination} (whole : destination.IsWhole store) :
    Took (store, destination) [] (store, destination) where
  contents := by
    cases destination.contents store <;> simp
  count := rfl
  site := rfl
  others _ _ := rfl
  whole := whole
  room more roomy := by
    rw [List.length_nil, Nat.zero_add] at roomy
    exact roomy

theorem trans {before middle after : Store × Destination} {first second : Bytes}
    (one : Took before first middle) (two : Took middle second after) :
    Took before (first ++ second) after where
  contents := by
    rw [two.contents, one.contents, Option.map_map]
    simp only [Function.comp_def, Memory.put_put]
  count := by
    rw [two.count, one.count, List.length_append, Nat.add_assoc]
  site := two.site.trans one.site
  others place elsewhere := by
    rw [two.others place (by rw [one.site]; exact elsewhere), one.others place elsewhere]
  whole := two.whole
  room more roomy := by
    rw [List.length_append, Nat.add_assoc] at roomy
    exact two.room more (one.room (second.length + more) roomy)

end Took

theorem HasRoom.mono {count fewer : Nat} (less : fewer ≤ count) {destination : Destination}
    (roomy : destination.HasRoom count) : destination.HasRoom fewer := by
  cases destination with
  | memory target => trivial
  | counter count => trivial
  | region target => exact Nat.le_trans (Nat.add_le_add_left less target.position) roomy
  | recorder target =>
      intro budget bounded
      exact Nat.le_trans (Nat.add_le_add_left less target.taken.length) (roomy budget bounded)
  | stream target =>
      rcases target with ⟨name, written, device⟩
      cases device with
      | file file => exact roomy
      | writer device =>
          refine ⟨roomy.1, fun budget bounded => ?_⟩
          exact Nat.le_trans (Nat.add_le_add_left less device.taken.length)
            (roomy.2 budget bounded)

variable {store : Store}

theorem put_region_of_room {region : Region} (placed : region.IsPlaced store) {piece : Piece}
    (room : region.position + piece.bytes.length ≤ region.stop) :
    ((Destination.region region).put store piece).fault = none ∧
      Took (store, .region region) piece.bytes ((Destination.region region).put store piece).state
    := by
  have inside : region.position + piece.bytes.length
      ≤ (store.buffer region.buffer).bytes.length := Nat.le_trans room placed.inside
  have within : region.position ≤ (store.buffer region.buffer).bytes.length :=
    Nat.le_trans (Nat.le_add_right _ _) inside
  simp only [put, Region.put_of_room placed room]
  refine ⟨trivial, ?_⟩
  constructor
  case contents =>
    simp only [contents, Store.buffer_setBuffer_self placed.made, Option.map_some,
      Memory.ofBytes_splice within]
  case count =>
    have low := placed.low
    simp only [count]
    omega
  case site => rfl
  case others =>
    intro place elsewhere
    cases place with
    | file location => rfl
    | buffer id =>
        have different : id ≠ region.buffer := by
          rintro rfl
          exact elsewhere rfl
        simp only [Place.bytes, Store.buffer_setBuffer_of_ne different]
  case whole =>
    constructor
    · simpa only [Store.setBuffer, List.length_set] using placed.made
    · exact Nat.le_trans placed.low (Nat.le_add_right _ _)
    · exact room
    · simp only [Store.buffer_setBuffer_self placed.made, Bytes.length_splice_of_le inside]
      exact placed.inside
  case room =>
    intro more roomy
    simp only [HasRoom, Nat.add_assoc] at roomy ⊢
    exact roomy

theorem put_writer_of_room {name : Text} {written : Nat} {device : Writer}
    (whole : device.limit = none) {piece : Piece}
    (room : (Destination.stream ⟨name, written, .writer device⟩).HasRoom piece.bytes.length) :
    ((Destination.stream ⟨name, written, .writer device⟩).put store piece).fault = none ∧
      Took (store, .stream ⟨name, written, .writer device⟩) piece.bytes
        ((Destination.stream ⟨name, written, .writer device⟩).put store piece).state := by
  have accepted := Writer.write_of_room whole room.1 room.2
  simp only [put, Stream.put, Device.write, accepted, Attempt.map]
  refine ⟨trivial, ?_⟩
  constructor
  case contents => simp [contents, Memory.put]
  case count => rfl
  case site => rfl
  case others => exact fun place elsewhere => rfl
  case whole => exact whole
  case room =>
    intro more roomy
    refine ⟨room.1, fun budget bounded => ?_⟩
    have below := roomy.2 budget bounded
    simp only [List.length_append, List.length_reverse] at below ⊢
    omega

theorem put_file_of_room {name : Text} {written : Nat} {file : FileWriter}
    (whole : file.IsSound store) (opened : file.isClosed = false) (piece : Piece) :
    ((Destination.stream ⟨name, written, .file file⟩).put store piece).fault = none ∧
      Took (store, .stream ⟨name, written, .file file⟩) piece.bytes
        ((Destination.stream ⟨name, written, .file file⟩).put store piece).state := by
  simp only [put, Stream.put, Device.write, opened, Bool.false_eq_true, if_false, Attempt.map]
  refine ⟨trivial, ?_⟩
  constructor
  case contents => simp only [contents, FileWriter.contents_write whole, Option.map_some]
  case count => rfl
  case site => simp only [site, FileWriter.location_write]
  case others =>
    intro place elsewhere
    cases place with
    | buffer id => simp only [Place.bytes, Store.buffer, FileWriter.buffers_write]
    | file location =>
        have different : location ≠ file.location := by
          rintro rfl
          exact elsewhere rfl
        exact FileWriter.content_write_of_ne different store piece.bytes
  case whole => exact FileWriter.isSound_write whole piece.bytes
  case room =>
    intro more roomy
    simp only [HasRoom, FileWriter.isClosed_write]
    exact opened

theorem put_recorder_of_room {recorder : Recorder} {piece : Piece}
    (room : (Destination.recorder recorder).HasRoom piece.bytes.length) :
    ((Destination.recorder recorder).put store piece).fault = none ∧
      Took (store, .recorder recorder) piece.bytes
        ((Destination.recorder recorder).put store piece).state := by
  simp only [put, Recorder.put_of_room room, Attempt.map]
  refine ⟨trivial, ?_⟩
  constructor
  case contents => simp [contents, Memory.put]
  case count =>
    simp only [count, List.length_append, List.length_reverse]
    omega
  case site => rfl
  case others => exact fun place elsewhere => rfl
  case whole => trivial
  case room =>
    intro more roomy budget bounded
    have below := roomy budget bounded
    simp only [List.length_append, List.length_reverse] at below ⊢
    omega

/-- A destination that has room for a piece takes it. -/
theorem put_of_room {destination : Destination} (whole : destination.IsWhole store) {piece : Piece}
    (room : destination.HasRoom piece.bytes.length) :
    (destination.put store piece).fault = none ∧
      Took (store, destination) piece.bytes (destination.put store piece).state := by
  cases destination with
  | memory target =>
      refine ⟨rfl, rfl, ?_, rfl, fun place elsewhere => rfl, trivial, fun more roomy => trivial⟩
      exact Memory.position_put target piece.bytes
  | counter count =>
      exact ⟨rfl, rfl, rfl, rfl, fun place elsewhere => rfl, trivial, fun more roomy => trivial⟩
  | region target => exact put_region_of_room whole room
  | recorder target => exact put_recorder_of_room room
  | stream target =>
      rcases target with ⟨name, written, device⟩
      cases device with
      | writer device => exact put_writer_of_room whole room
      | file file => exact put_file_of_room whole room piece

/-- A destination that has no room for a piece refuses it, and keeps nothing of it. -/
theorem put_of_no_room {destination : Destination} (whole : destination.IsWhole store)
    {piece : Piece} (full : ¬destination.HasRoom piece.bytes.length) :
    (destination.put store piece).fault ≠ none ∧
      Took (store, destination) [] (destination.put store piece).state := by
  have unchanged := Took.nil whole
  cases destination with
  | memory target => exact absurd trivial full
  | counter count => exact absurd trivial full
  | region target =>
      rcases Region.put_of_no_room whole full with ⟨fault, refused⟩
      simp only [put, refused, Attempt.failed]
      exact ⟨Option.some_ne_none fault, unchanged⟩
  | recorder target =>
      simp only [put, Recorder.put_of_no_room full, Attempt.failed, Attempt.map]
      refine ⟨Option.some_ne_none _, ?_⟩
      exact ⟨unchanged.contents, rfl, rfl, fun place elsewhere => rfl, trivial, unchanged.room⟩
  | stream target =>
      rcases target with ⟨name, written, device⟩
      cases device with
      | file file =>
          have closed : file.isClosed = true := by simpa [HasRoom] using full
          simp only [put, Stream.put, Device.write, closed, if_true, Attempt.failed, Attempt.map]
          exact ⟨Option.some_ne_none _, unchanged⟩
      | writer device =>
          cases closed : device.isClosed with
          | true =>
              simp only [put, Stream.put, Device.write, Writer.write, closed, if_true,
                Attempt.failed, Attempt.map]
              exact ⟨Option.some_ne_none _, unchanged⟩
          | false =>
              have beyond := Writer.write_of_no_room closed (not_and.mp full closed)
              simp only [put, Stream.put, Device.write, beyond, Attempt.failed, Attempt.map]
              refine ⟨Option.some_ne_none _, ?_⟩
              exact ⟨unchanged.contents, rfl, rfl, fun place elsewhere => rfl, whole,
                fun more roomy => ⟨closed, (unchanged.room more roomy).2⟩⟩

/-- A destination that has room for all pieces takes them. -/
theorem deliver_of_room {destination : Destination} (whole : destination.IsWhole store)
    {pieces : List Piece} (room : destination.HasRoom (pieces.flatMap Piece.bytes).length) :
    (destination.deliver store pieces).fault = none ∧
      Took (store, destination) (pieces.flatMap Piece.bytes)
        (destination.deliver store pieces).state := by
  induction pieces generalizing store destination with
  | nil => exact ⟨rfl, Took.nil whole⟩
  | cons piece rest ih =>
      rw [List.flatMap_cons, List.length_append] at room
      rcases put_of_room whole (room.mono (Nat.le_add_right _ _)) with ⟨accepted, took⟩
      rcases ih took.whole (took.room _ room) with ⟨delivered, later⟩
      simp only [deliver, accepted]
      exact ⟨delivered, took.trans later⟩

theorem deliver_memory (memory : Memory) (pieces : List Piece) :
    (Destination.memory memory).deliver store pieces
      = { state := (store, .memory (memory.put (pieces.flatMap Piece.bytes))) } := by
  induction pieces generalizing memory with
  | nil => simp [deliver]
  | cons piece rest ih =>
      simp only [deliver, put, ih, Memory.put_put, List.flatMap_cons]

/-- A delivery takes pieces in order; it fails at the first one that is not taken. -/
theorem deliver_whole {destination : Destination} (whole : destination.IsWhole store)
    (pieces : List Piece) :
    ∃ taken rest, pieces = taken ++ rest ∧
      ((destination.deliver store pieces).fault = none ↔ rest = []) ∧
        Took (store, destination) (taken.flatMap Piece.bytes)
          (destination.deliver store pieces).state := by
  induction pieces generalizing store destination with
  | nil => exact ⟨[], [], rfl, by simp [deliver], Took.nil whole⟩
  | cons piece rest ih =>
      by_cases room : destination.HasRoom piece.bytes.length
      · rcases put_of_room whole room with ⟨accepted, took⟩
        rcases ih took.whole with ⟨taken, left, rfl, complete, later⟩
        refine ⟨piece :: taken, left, rfl, ?_, ?_⟩
        · simp only [deliver, accepted]
          exact complete
        · simp only [deliver, accepted, List.flatMap_cons]
          exact took.trans later
      · rcases put_of_no_room whole room with ⟨refused, took⟩
        rcases Option.ne_none_iff_exists'.mp refused with ⟨fault, found⟩
        refine ⟨[], piece :: rest, rfl, ?_, ?_⟩
        · simp [deliver, found]
        · simp only [deliver, found, List.flatMap_nil]
          exact took

theorem deliver_append {destination : Destination} {first : List Piece}
    (taken : (destination.deliver store first).fault = none) (second : List Piece) :
    destination.deliver store (first ++ second)
      = (destination.deliver store first).state.2.deliver (destination.deliver store first).state.1
          second := by
  induction first generalizing store destination with
  | nil => rfl
  | cons piece rest ih =>
      cases accepted : (destination.put store piece).fault with
      | some fault => simp [deliver, accepted] at taken
      | none =>
          simp only [deliver, accepted, List.cons_append] at taken ⊢
          exact ih taken

theorem fault_deliver_of_append {destination : Destination} {first second : List Piece}
    (taken : (destination.deliver store (first ++ second)).fault = none) :
    (destination.deliver store first).fault = none := by
  induction first generalizing store destination with
  | nil => rfl
  | cons piece rest ih =>
      cases accepted : (destination.put store piece).fault with
      | some fault => simp [deliver, accepted] at taken
      | none =>
          simp only [deliver, accepted, List.cons_append] at taken ⊢
          exact ih taken

/-- What every piece keeps, a delivery keeps. -/
theorem deliver_keeps {keeps : Store → Destination → Prop}
    (each : ∀ store destination piece, keeps store destination →
      keeps (destination.put store piece).state.1 (destination.put store piece).state.2)
    (destination : Destination) (pieces : List Piece) (kept : keeps store destination) :
    keeps (destination.deliver store pieces).state.1
      (destination.deliver store pieces).state.2 := by
  induction pieces generalizing store destination with
  | nil => exact kept
  | cons piece rest ih =>
      have first := each store destination piece kept
      simp only [deliver]
      split
      · exact first
      · exact ih _ first

/-- Whether a destination refuses no pieces that have so many bytes in all. -/
def Takes (store : Store) (count : Nat) (destination : Destination) : Prop :=
  ∀ pieces : List Piece, (pieces.flatMap Piece.bytes).length ≤ count →
    (destination.deliver store pieces).fault = none

theorem takes_of_room {destination : Destination} (whole : destination.IsWhole store) {count : Nat}
    (room : destination.HasRoom count) : destination.Takes store count := by
  intro pieces few
  exact (deliver_of_room whole (room.mono few)).1

theorem Takes.deliver {destination : Destination} {pieces : List Piece} {more : Nat}
    (takes : destination.Takes store ((pieces.flatMap Piece.bytes).length + more)) :
    (destination.deliver store pieces).state.2.Takes (destination.deliver store pieces).state.1
      more := by
  intro later few
  have first := takes pieces (Nat.le_add_right _ _)
  have both := takes (pieces ++ later) (by rw [List.flatMap_append, List.length_append]; omega)
  rwa [deliver_append first] at both

/-- No place of a store loses bytes when a piece is handed to a destination. -/
theorem length_le_put (destination : Destination) (piece : Piece) (place : Place) :
    (place.bytes store).length
      ≤ (place.bytes (destination.put store piece).state.1).length := by
  cases destination with
  | memory target => exact Nat.le_refl _
  | counter count => exact Nat.le_refl _
  | recorder target => exact Nat.le_refl _
  | region target =>
      cases taken : target.put (store.buffer target.buffer) piece with
      | error fault => simp only [put, taken, Attempt.failed, Nat.le_refl]
      | ok result =>
          rcases result with ⟨changed, buffer⟩
          simp only [put, taken]
          cases place with
          | file location => exact Nat.le_refl _
          | buffer id =>
              simp only [Place.bytes]
              by_cases same : id = target.buffer
              · subst same
                by_cases made : target.buffer < store.buffers.length
                · rw [Store.buffer_setBuffer_self made]
                  exact Region.length_le_put taken
                · simp [Store.buffer, made]
              · simp only [Store.buffer_setBuffer_of_ne same, Nat.le_refl]
  | stream target =>
      rcases target with ⟨name, written, device⟩
      cases device with
      | writer device =>
          simp only [put, Stream.put, Device.write, Attempt.map]
          split <;> exact Nat.le_refl _
      | file file =>
          simp only [put, Stream.put, Device.write, Attempt.map]
          by_cases closed : file.isClosed = true
          · simp only [closed, if_true, Attempt.failed, Nat.le_refl]
          · simp only [closed, Bool.false_eq_true, if_false]
            cases place with
            | buffer id =>
                simp only [Place.bytes, Store.buffer, FileWriter.buffers_write, Nat.le_refl]
            | file location =>
                exact FileWriter.length_content_le_write store file piece.bytes location

theorem length_le_deliver (destination : Destination) (pieces : List Piece) (place : Place) :
    (place.bytes store).length
      ≤ (place.bytes (destination.deliver store pieces).state.1).length := by
  induction pieces generalizing store destination with
  | nil => exact Nat.le_refl _
  | cons piece rest ih =>
      have first := @length_le_put store destination piece place
      simp only [deliver]
      split
      · exact first
      · exact Nat.le_trans first (ih _)

theorem exists_memory_of_site {destination : Destination} (site : destination.site = .memory) :
    ∃ memory, destination = .memory memory := by
  cases destination with
  | memory target => exact ⟨target, rfl⟩
  | stream target => rcases target with ⟨name, written, _ | _⟩ <;> cases site
  | _ => cases site

theorem exists_region_of_site {destination : Destination} {id : BufferId} {start stop : Nat}
    (site : destination.site = .region id start stop) :
    ∃ position, destination = .region ⟨id, start, stop, position⟩ := by
  cases destination with
  | region target =>
      cases site
      exact ⟨target.position, rfl⟩
  | stream target => rcases target with ⟨name, written, _ | _⟩ <;> cases site
  | _ => cases site

theorem exists_writer_of_site {destination : Destination} (site : destination.site = .writer) :
    ∃ name written device, destination = .stream ⟨name, written, .writer device⟩ := by
  cases destination with
  | stream target =>
      rcases target with ⟨name, written, device | file⟩
      · exact ⟨name, written, device, rfl⟩
      · cases site
  | _ => cases site

theorem exists_recorder_of_site {destination : Destination}
    (site : destination.site = .recorder) : ∃ recorder, destination = .recorder recorder := by
  cases destination with
  | recorder target => exact ⟨target, rfl⟩
  | stream target => rcases target with ⟨name, written, _ | _⟩ <;> cases site
  | _ => cases site

namespace Took

variable {after : Store × Destination} {data : Bytes}

theorem value_of_memory {memory : Memory} (took : Took (store, .memory memory) data after) :
    ∃ later, after.2 = .memory later ∧ later.value = memory.value ++ data := by
  rcases exists_memory_of_site took.site with ⟨later, found⟩
  have contents := took.contents
  rw [found] at contents
  obtain rfl : later = memory.put data := Option.some.inj contents
  exact ⟨_, found, Memory.value_put memory data⟩

theorem kept_of_writer {name : Text} {written : Nat} {device : Writer}
    (took : Took (store, .stream ⟨name, written, .writer device⟩) data after) :
    ∃ name written later, after.2 = .stream ⟨name, written, .writer later⟩ ∧
      later.kept = device.kept ++ data := by
  rcases exists_writer_of_site took.site with ⟨name, written, later, found⟩
  have contents := took.contents
  rw [found] at contents
  have taken : later.taken = data.reverse ++ device.taken :=
    congrArg Memory.before (Option.some.inj contents)
  refine ⟨name, written, later, found, ?_⟩
  rw [Writer.kept, Writer.kept, taken, List.reverse_append, List.reverse_reverse]

theorem data_of_recorder {recorder : Recorder}
    (took : Took (store, .recorder recorder) data after) :
    ∃ later, after.2 = .recorder later ∧ later.data = recorder.data ++ data := by
  rcases exists_recorder_of_site took.site with ⟨later, found⟩
  have contents := took.contents
  rw [found] at contents
  have taken : later.taken = data.reverse ++ recorder.taken :=
    congrArg Memory.before (Option.some.inj contents)
  refine ⟨later, found, ?_⟩
  rw [Recorder.data, Recorder.data, taken, List.reverse_append, List.reverse_reverse]

/-- The part of a window before the cursor grows by what is taken. -/
theorem held_of_region {region : Region} (placed : region.IsPlaced store)
    (took : Took (store, .region region) data after) :
    ∃ position, after.2 = .region { region with position } ∧
      ((after.1.buffer region.buffer).bytes.take position).drop region.start
        = ((store.buffer region.buffer).bytes.take region.position).drop region.start ++ data := by
  rcases exists_region_of_site took.site with ⟨position, found⟩
  have contents := took.contents
  rw [found] at contents
  have before : ((after.1.buffer region.buffer).bytes.take position).reverse
      = data.reverse ++ ((store.buffer region.buffer).bytes.take region.position).reverse :=
    congrArg Memory.before (Option.some.inj contents)
  have front : (after.1.buffer region.buffer).bytes.take position
      = (store.buffer region.buffer).bytes.take region.position ++ data := by
    rw [← List.reverse_append] at before
    exact List.reverse_inj.mp before
  have low : region.start ≤ ((store.buffer region.buffer).bytes.take region.position).length := by
    have low := placed.low
    have high := placed.high
    have inside := placed.inside
    rw [List.length_take]
    omega
  refine ⟨position, found, ?_⟩
  rw [front, List.drop_append_of_le_length low]

end Took

end Destination

end IndexWire
