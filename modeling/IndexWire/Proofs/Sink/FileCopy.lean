import IndexWire.Proofs.Directory.Keeping
import IndexWire.Proofs.Sink.FailedCopy

/-!
# Copies between files

A copy reads one file and writes another, or writes at the end of the file that it reads. In both
cases it finds the bytes that were there at first: writing at the end leaves them in front. Where
the file has fewer bytes than are to be copied, the copy fails at the first block that it cannot
read as a whole, and the blocks before it have been written.
-/

namespace IndexWire

namespace Destination

/--
A stream that writes to a file, in a store in which nothing else has changed. The file that is read
may be the one that is written, if it is written at its end.
-/
structure WritesFile (base : Directory) (source target : Location) (store : Store)
    (destination : Destination) : Prop where
  stream : ∃ name written file, destination = .stream ⟨name, written, .file file⟩ ∧
    file.location = target ∧ (source ≠ target ∨ file.position = none)
  made : base.IsFile target
  directory : Directory.Keeps (· = target) base store.directory
  grows : base.content source <+: store.directory.content source

variable {base : Directory} {source target : Location}

theorem writesFile_put (store : Store) (destination : Destination) (piece : Piece)
    (writes : destination.WritesFile base source target store) :
    (destination.put store piece).state.2.WritesFile base source target
      (destination.put store piece).state.1 := by
  rcases writes with ⟨⟨name, written, file, rfl, rfl, apart⟩, made, directory, grows⟩
  by_cases closed : file.isClosed = true
  · simp only [Destination.put, Stream.put, Device.write, closed, if_true, Attempt.failed,
      Attempt.map]
    exact ⟨⟨name, written, file, rfl, rfl, apart⟩, made, directory, grows⟩
  · have there := directory.files _ made
    simp only [Destination.put, Stream.put, Device.write, closed, Bool.false_eq_true, if_false,
      Attempt.map]
    refine ⟨⟨_, _, _, rfl, FileWriter.location_write _ _ _, ?_⟩, made,
      directory.trans (FileWriter.keeps_write there _), grows.trans ?_⟩
    · rcases apart with other | atEnd
      · exact Or.inl other
      · exact Or.inr (FileWriter.position_write atEnd store _)
    · by_cases same : source = file.location
      · subst same
        exact FileWriter.content_isPrefix_write there.below (apart.resolve_left (by simp)) _
      · simp only [FileWriter.content_write_of_ne same, List.prefix_refl]

/-- A delivery of pieces writes no other file, and writes over no byte that is read. -/
theorem writesFile_deliver (store : Store) (destination : Destination) (pieces : List Piece)
    (writes : destination.WritesFile base source target store) :
    (destination.deliver store pieces).state.2.WritesFile base source target
      (destination.deliver store pieces).state.1 :=
  deliver_keeps writesFile_put destination pieces writes

/--
A writer that is closed leaves in its file what it was to hold, and changes nothing else. Other
files may have changed since it was last written to.
-/
theorem WritesFile.close {store after : Store} {destination : Destination}
    {changed : Location → Prop} (writes : destination.WritesFile base source target store)
    (whole : destination.IsWhole store)
    (keeps : Directory.Keeps changed store.directory after.directory) (same : ¬changed target) :
    Directory.Keeps (· = target) after.directory (destination.close after).state.1.directory ∧
      ∀ memory, destination.contents store = some memory →
        (destination.close after).state.1.directory.content target = memory.buffer := by
  rcases writes with ⟨⟨name, written, file, rfl, rfl, apart⟩, made, directory, grows⟩
  have there := keeps.files _ (directory.files _ made)
  have content := keeps.contents _ same
  refine ⟨FileWriter.keeps_close there, ?_⟩
  intro memory contents
  have sound : file.IsSound store := whole
  have later : file.IsSound after := by
    refine ⟨there.below, fun position found => ?_⟩
    rw [content]
    exact sound.inside position found
  have unchanged : file.contents after = file.contents store := by
    simp only [FileWriter.contents, FileWriter.reached, content]
  cases contents
  rw [← unchanged]
  exact FileWriter.content_close later

end Destination

/-- A file that has been opened holds its bytes, and then those that are put into it. -/
theorem FileWriter.buffer_put_of_opened {store : Store} {location : Location}
    {position : Option Nat}
    (atEnd : position.getD (store.directory.content location).length
      = (store.directory.content location).length) (bytes : Bytes) :
    ((FileWriter.contents store { location, position }).put bytes).buffer
      = store.directory.content location ++ bytes := by
  simp [FileWriter.contents, FileWriter.reached, atEnd, Memory.ofBytes, Memory.put, Memory.buffer,
    Memory.value]

namespace Transfer

/-- Where a file ends before the next block does, a copy ends as well, and writes no more. -/
theorem moveBlocks_of_file_end {store : Store} {sink : Sink} {scratch : Bytes}
    {location : Location} {position left : Nat} (buffer : sink.scratch = some scratch)
    (size : scratch.length = blockSize)
    (short : ((store.directory.content location).drop position).length < min left blockSize) :
    let ended := (Transfer.mk store sink (.stream (.file location position))).moveBlocks left
    ended.fault = some (.streamEnded ((store.directory.content location).drop position).length
        (min left blockSize)) ∧
      ended.state.store = store ∧ ended.state.sink.destination = sink.destination := by
  intro ended
  have fits : min left blockSize ≤ (Buffer.mk scratch 0).bytes.length := by
    rw [size]
    exact Nat.min_le_right left blockSize
  rcases load_of_scratch store (.stream (.file location position)) buffer (min left blockSize) with
      ⟨state, outcome⟩
  have ends : (Source.stream (.file location position)).Ends store
      ((store.directory.content location).drop position).length :=
    ⟨⟨trivial, Nat.le_refl _⟩, rfl⟩
  rw [(Source.readInto_of_short ends short fits).1] at outcome
  have stopped : ended = _ := moveBlocks_of_load_fault (by omega) outcome
  rw [stopped, state]
  exact ⟨outcome, rfl, rfl⟩

/-- Where all that is read is taken, a copy from a file fails only where the file ends. -/
theorem moveBlocks_of_file (store : Store) {sink : Sink} {scratch : Bytes} {location : Location}
    {position left : Nat} (buffer : sink.scratch = some scratch)
    (size : scratch.length = blockSize) (takes : ∀ count, sink.destination.Takes store count)
    {fault : Fault}
    (failed : ((Transfer.mk store sink (.stream (.file location position))).moveBlocks left).fault
      = some fault) :
    ∃ given wanted, fault = .streamEnded given wanted := by
  induction left using Nat.strongRecOn generalizing store sink scratch position with
  | ind left ih =>
      rcases Nat.eq_zero_or_pos left with rfl | unfinished
      · rw [moveBlocks_zero] at failed
        cases failed
      · rcases Nat.lt_or_ge ((store.directory.content location).drop position).length
          (min left blockSize) with short | enough
        · rw [(moveBlocks_of_file_end buffer size short).1] at failed
          exact ⟨_, _, (Option.some.inj failed).symm⟩
        · have holds : (Source.stream (.file location position)).Holds store (min left blockSize) :=
            ⟨trivial, enough⟩
          rcases moveBlocks_of_holds store buffer size unfinished holds with
            ⟨later, advanced, goesOn, -⟩
          rcases Source.eq_file_of_origin advanced.origin with ⟨next, rfl⟩
          have length := List.length_take_of_le holds.le_length_upcoming
          rw [goesOn (takes _ _ (Nat.le_refl _))] at failed
          refine ih _ ?_ _ rfl ?_ ?_ failed
          · have positive : 0 < min left blockSize := Nat.lt_min.mpr ⟨unfinished, by decide⟩
            exact Nat.sub_lt unfinished positive
          · rw [List.length_append, List.length_drop, length]
            have most := Nat.min_le_right left blockSize
            omega
          · intro count
            exact Destination.Takes.deliver (takes _)

/-- A copy from a position of a file to a writer of a file. -/
def ofFiles (store : Store) (policy : SurrogatePolicy) (name : Text) (writer : FileWriter)
    (source : Location) (skip : Nat) : Transfer where
  store
  sink := { policy, destination := .stream { name, device := .file writer } }
  source := .stream (.file source skip)

/-- A copy between files fails only for a negative count, or where the source ends. -/
theorem copy_ofFiles_of_fault {store : Store} {policy : SurrogatePolicy} {name : Text}
    {writer : FileWriter} {source : Location} {skip : Nat} (sound : writer.IsSound store)
    (opened : writer.isClosed = false) {count : Int} {fault : Fault}
    (failed : ((ofFiles store policy name writer source skip).copy count).fault = some fault) :
    fault = .negativeCount count ∨ ∃ given wanted, fault = .streamEnded given wanted := by
  by_cases negative : count < 0
  · rw [copy, if_pos negative] at failed
    exact Or.inl (Option.some.inj failed).symm
  · rw [(copy_of_nonneg _ (Int.not_lt.mp negative)).2] at failed
    right
    let sink := (ofFiles store policy name writer source skip).sink.withScratch
    have whole : sink.destination.IsWhole store := sound
    exact @moveBlocks_of_file store sink _ source skip _ rfl List.length_replicate
      (fun _ => Destination.takes_of_room whole opened) _ failed

section Files

variable {store : Store} (policy : SurrogatePolicy) (name : Text) {writer : FileWriter}
  {source : Location} (skip : Nat) (made : store.directory.IsFile writer.location)
  (apart : source ≠ writer.location ∨ writer.position = none)

include made apart

theorem writesFile_ofFiles :
    (ofFiles store policy name writer source skip).sink.destination.WritesFile store.directory
      source writer.location store :=
  ⟨⟨name, 0, writer, rfl, rfl, apart⟩, made, Directory.Keeps.refl _ _, List.prefix_refl _⟩

/-- A copy between files changes no other file. -/
theorem writesFile_copy (count : Int) :
    let copied := (ofFiles store policy name writer source skip).copy count
    copied.state.sink.destination.WritesFile store.directory source writer.location
      copied.state.store :=
  copy_keeps Destination.writesFile_deliver _ count
    (writesFile_ofFiles policy name skip made apart)

variable (sound : writer.IsSound store) (opened : writer.isClosed = false)

include sound opened

/-- A copy of no more bytes than there are moves them. -/
theorem copy_ofFiles {count : Nat}
    (enough : skip + count ≤ (store.directory.content source).length) :
    let start := ofFiles store policy name writer source skip
    let copied := start.copy count
    copied.fault = none ∧
      Destination.Took (store, start.sink.destination)
        (((store.directory.content source).drop skip).take count)
        (copied.state.store, copied.state.sink.destination) := by
  intro start copied
  have writes := writesFile_ofFiles policy name skip made apart
  have holds : start.source.Holds store count := by
    refine ⟨trivial, ?_⟩
    change count ≤ ((store.directory.content source).drop skip).length
    rw [List.length_drop]
    omega
  have inside : start.source.position + count ≤ (store.directory.content source).length := by
    change (skip : Int) + count ≤ _
    omega
  rcases @moveBlocks_of_steady _ _ _ Destination.writesFile_deliver (fun _ _ writes => writes.grows)
    store start.sink.withScratch start.source _ count rfl List.length_replicate writes rfl sound
    opened holds inside with ⟨success, took, -, -⟩
  have same := copy_of_nonneg start (Int.natCast_nonneg count)
  rw [Int.toNat_natCast] at same
  rw [show copied.state = _ from same.1, show copied.fault = _ from same.2]
  exact ⟨success, took⟩

end Files

/--
A copy of more bytes than there are moves the whole blocks among them. It fails at the block after
these, of which it has read what there is.
-/
theorem copy_ofFiles_of_short {store : Store} (policy : SurrogatePolicy) (name : Text)
    {writer : FileWriter} {source : Location} {skip : Nat} (sound : writer.IsSound store)
    (opened : writer.isClosed = false) (other : source ≠ writer.location)
    {count : Nat} (short : (store.directory.content source).length - skip < count) :
    let available := (store.directory.content source).length - skip
    let blocks := available / blockSize
    let start := ofFiles store policy name writer source skip
    let copied := start.copy count
    copied.fault
        = some (.streamEnded (available % blockSize) (min (count - blocks * blockSize) blockSize)) ∧
      Destination.Took (store, start.sink.destination)
        (((store.directory.content source).drop skip).take (blocks * blockSize))
        (copied.state.store, copied.state.sink.destination) := by
  intro available blocks start copied
  have whole : blocks * blockSize + available % blockSize = available :=
    Nat.div_add_mod' available blockSize
  have part : available % blockSize < blockSize := Nat.mod_lt _ (by decide)
  have fewer : available < count := short
  have length : ((store.directory.content source).drop skip).length = available :=
    List.length_drop
  have ends : start.source.Ends store available := ⟨⟨trivial, Nat.le_of_eq length.symm⟩, length⟩
  have avoids : start.source.origin.Avoids start.sink.destination.site.place? := by
    rintro place ⟨⟩ same
    exact other (Place.file.inj (Option.some.inj same)).symm
  have room : (blocks * blockSize : Nat) ≤ start.sink.destination.capacity := by
    have endless : start.sink.destination.capacity = ⊤ := by
      simp [start, ofFiles, Destination.capacity, opened]
    rw [endless]
    exact le_top
  have starts : blocks * blockSize < count := by omega
  have wanted := blockEnd_eq starts
  have unread : available < blockEnd count blocks := by omega
  have destined : start.sink.destination.IsWhole start.store := sound
  rcases copy_of_short_read destined (fun bytes none => by cases none) avoids ends starts
    (by omega) room unread with ⟨fault, took, -, -⟩
  have left : available - blocks * blockSize = available % blockSize := by omega
  have size : blockEnd count blocks - blocks * blockSize
      = min (count - blocks * blockSize) blockSize := by omega
  rw [left, size] at fault
  exact ⟨fault, took⟩

end Transfer

end IndexWire
