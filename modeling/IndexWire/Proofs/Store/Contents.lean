import IndexWire.Store.FileWriter
import IndexWire.Store.Memory

/-!
# Contents of buffers and files

Bytes that are put over others, in memory, in a shared buffer or in a file, follow one law: what
stands before the cursor grows by the bytes put, and what stands after it loses as many. The law is
stated on `Memory`, and this file brings buffers and files to it. A file that is open for writing is
seen as it is to be once the bytes that wait have reached it.
-/

namespace IndexWire

namespace Bytes

/-- Bytes put over as many others leave no fewer bytes than there were. -/
theorem length_le_length_splice (bytes replacement : Bytes) (start : Nat) :
    bytes.length
      ≤ (bytes.splice start (start + replacement.length : Nat) replacement).length := by
  simp only [splice, clip_natCast, List.length_append, List.length_take, List.length_drop]
  omega

theorem splice_singleton {bytes : Bytes} {position : Nat} (inside : position < bytes.length)
    (byte : UInt8) :
    bytes.splice position (position + 1 : Nat) [byte] = bytes.set position byte := by
  rw [splice_of_le (Nat.le_of_lt inside), List.set_eq_take_append_cons_drop, if_pos inside,
    List.append_assoc]
  rfl

end Bytes

/-- Bytes put over the first ones of a buffer leave the rest of it. -/
theorem Buffer.splice_front {buffer : Buffer} {chunk : Bytes}
    (fits : chunk.length ≤ buffer.bytes.length) :
    buffer.splice 0 (0 + chunk.length) chunk
      = .ok { buffer with bytes := chunk ++ buffer.bytes.drop chunk.length } := by
  have law : buffer.bytes.splice (0 : Nat) (0 + chunk.length : Nat) chunk
      = buffer.bytes.take 0 ++ chunk ++ buffer.bytes.drop (0 + chunk.length) :=
    Bytes.splice_of_le (Nat.zero_le buffer.bytes.length) chunk
  have spliced : buffer.bytes.splice 0 (0 + chunk.length) chunk
      = chunk ++ buffer.bytes.drop chunk.length := by
    simpa using law
  have same : (chunk ++ buffer.bytes.drop chunk.length).length = buffer.bytes.length := by
    rw [List.length_append, List.length_drop]
    omega
  simp only [Buffer.splice, spliced, same, ne_eq, not_true_eq_false, false_and, if_false]

namespace Memory

@[simp]
theorem put_nil (memory : Memory) : memory.put [] = memory := by
  simp [put]

theorem put_put (memory : Memory) (first second : Bytes) :
    (memory.put first).put second = memory.put (first ++ second) := by
  simp [put]

theorem position_put (memory : Memory) (bytes : Bytes) :
    (memory.put bytes).position = memory.position + bytes.length := by
  simp [put, position, Nat.add_comm]

theorem length_buffer_put {memory : Memory} {bytes : Bytes}
    (inside : bytes.length ≤ memory.after.length) :
    (memory.put bytes).buffer.length = memory.buffer.length := by
  have after : (memory.put bytes).after.length = memory.after.length - bytes.length :=
    List.length_drop
  rw [buffer, buffer, value_put]
  simp only [List.length_append, after]
  omega

/-- What is put changes nothing outside the bytes that it is put over. -/
theorem getElem?_buffer_put (memory : Memory) (bytes : Bytes) {index : Nat}
    (outside : index < memory.position ∨ memory.position + bytes.length ≤ index) :
    (memory.put bytes).buffer[index]? = memory.buffer[index]? := by
  have size := memory.length_value
  rw [buffer, buffer, value_put]
  rcases outside with before | beyond
  · rw [List.append_assoc, List.getElem?_append_left (by omega),
      List.getElem?_append_left (by omega)]
  · rw [List.getElem?_append_right (by rw [List.length_append]; omega),
      List.getElem?_append_right (by omega), put, List.getElem?_drop, List.length_append]
    congr 1
    omega

/-- Bytes put over others leave the cursor where they end. -/
theorem ofBytes_splice {bytes : Bytes} {position : Nat} (inside : position ≤ bytes.length)
    (replacement : Bytes) :
    ofBytes (bytes.splice position (position + replacement.length : Nat) replacement)
        (position + replacement.length)
      = (ofBytes bytes position).put replacement := by
  have front : (bytes.take position ++ replacement).length = position + replacement.length := by
    rw [List.length_append, List.length_take, Nat.min_eq_left inside]
  rw [Bytes.splice_of_le inside]
  simp only [ofBytes, put, List.take_left' front, List.drop_left' front, List.reverse_append,
    List.drop_drop]

end Memory

namespace Store

theorem buffer_setBuffer_self {store : Store} {id : BufferId} (made : id < store.buffers.length)
    (buffer : Buffer) : (store.setBuffer id buffer).buffer id = buffer := by
  simp [setBuffer, Store.buffer, made]

theorem buffer_setBuffer_of_ne {id other : BufferId} (different : other ≠ id) (store : Store)
    (buffer : Buffer) : (store.setBuffer id buffer).buffer other = store.buffer other := by
  simp [setBuffer, Store.buffer, Ne.symm different]

end Store

/-- What a store has bytes in. -/
inductive Place where
  | buffer (id : BufferId)
  | file (location : Location)
deriving DecidableEq

/-- The bytes at a place of a store. -/
def Place.bytes (store : Store) : Place → Bytes
  | buffer id => (store.buffer id).bytes
  | file location => store.directory.content location

section Entries

variable {κ ν : Type} [DecidableEq κ]

theorem find?_putEntry_self (entries : List (κ × ν)) (key : κ) (value : ν) :
    (putEntry (fun left right => left = right) entries key value).find? (fun each => each.1 = key)
      = some (key, value) := by
  by_cases known : entries.any fun each => each.1 = key
  · rw [putEntry, if_pos known]
    induction entries with
    | nil => simp at known
    | cons first rest ih =>
        rw [List.map_cons, List.find?_cons]
        by_cases same : first.1 = key
        · simp [same]
        · simp only [List.any_cons, same, decide_false, Bool.false_or] at known
          simpa only [same, decide_false, Bool.false_eq_true, if_false] using ih known
  · have absent : entries.find? (fun each => each.1 = key) = none := by
      rw [List.find?_eq_none]
      intro each mem found
      exact known (List.any_eq_true.mpr ⟨each, mem, found⟩)
    rw [putEntry, if_neg known, List.find?_append, absent]
    simp

theorem find?_putEntry_of_ne {key other : κ} (different : other ≠ key) (entries : List (κ × ν))
    (value : ν) :
    (putEntry (fun left right => left = right) entries key value).find? (fun each => each.1 = other)
      = entries.find? fun each => each.1 = other := by
  by_cases known : entries.any fun each => each.1 = key
  · rw [putEntry, if_pos known]
    clear known
    induction entries with
    | nil => rfl
    | cons first rest ih =>
        rw [List.map_cons, List.find?_cons, List.find?_cons, ih]
        by_cases same : first.1 = key
        · simp [same, Ne.symm different]
        · simp [same]
  · rw [putEntry, if_neg known, List.find?_append]
    simp [Ne.symm different]

end Entries

namespace Directory

theorem content_put_self {directory : Directory} {location : Location}
    (below : ¬location <+: directory.current) (content : Bytes) :
    (directory.put location (.file content)).content location = content := by
  have outside : location.isPrefixOf directory.current = false := by
    simpa [← Bool.not_eq_true] using below
  simp only [Directory.content, entry?, put, outside, find?_putEntry_self]
  rfl

theorem content_put_of_ne {location other : Location} (different : other ≠ location)
    (directory : Directory) (entry : Entry) :
    (directory.put location entry).content other = directory.content other := by
  simp only [Directory.content, entry?, put, find?_putEntry_of_ne different]

/-- A file that is put over one that has no more bytes leaves none of them out. -/
theorem length_content_le_put {directory : Directory} {location : Location} {bytes : Bytes}
    (more : (directory.content location).length ≤ bytes.length) (other : Location) :
    (directory.content other).length
      ≤ ((directory.put location (.file bytes)).content other).length := by
  by_cases same : other = location
  · subst same
    by_cases above : other <+: directory.current
    · have folder : directory.content other = [] := by
        simp only [content, entry?, List.isPrefixOf_iff_prefix.mpr above, if_true]
      rw [folder]
      exact Nat.zero_le _
    · rw [content_put_self above]
      exact more
  · simp only [content_put_of_ne same, Nat.le_refl]

/-- A location that has no folder is not on the way to the current folder. -/
theorem below_of_noFolder {directory : Directory} {location : Location}
    (noFolder : directory.entry? location ≠ some .folder) :
    ¬location <+: directory.current := by
  intro above
  refine noFolder ?_
  exact if_pos (List.isPrefixOf_iff_prefix.mpr above)

end Directory

namespace FileWriter

variable {store : Store} {writer : FileWriter}

/-- The file with the cursor where the next bytes go; the bytes that wait are left out. -/
def reached (store : Store) (writer : FileWriter) : Memory :=
  let content := store.directory.content writer.location
  .ofBytes content (writer.position.getD content.length)

/-- The file as it is to be once the bytes that wait have reached it. -/
def contents (store : Store) (writer : FileWriter) : Memory :=
  (writer.reached store).put writer.pending

/-- A writer of something that is no folder, at a position inside it. -/
structure IsSound (store : Store) (writer : FileWriter) : Prop where
  below : ¬writer.location <+: store.directory.current
  inside : ∀ position ∈ writer.position,
    position ≤ (store.directory.content writer.location).length

/-- A writer that is opened at the end of a file, or at the start of one that it has emptied. -/
theorem isSound_of_below {location : Location} (below : ¬location <+: store.directory.current)
    {position : Option Nat} (low : ∀ start ∈ position, start = 0) :
    IsSound store { location, position } where
  below := below
  inside start found := by
    rw [low start found]
    exact Nat.zero_le _

theorem IsSound.setPending (sound : writer.IsSound store) (bytes : Bytes) :
    { writer with pending := bytes }.IsSound store :=
  ⟨sound.below, sound.inside⟩

@[simp]
theorem location_commit (store : Store) (writer : FileWriter) (bytes : Bytes) :
    (writer.commit store bytes).2.location = writer.location := by
  unfold commit
  split <;> rfl

@[simp]
theorem pending_commit (store : Store) (writer : FileWriter) (bytes : Bytes) :
    (writer.commit store bytes).2.pending = writer.pending := by
  unfold commit
  split <;> rfl

@[simp]
theorem isClosed_commit (store : Store) (writer : FileWriter) (bytes : Bytes) :
    (writer.commit store bytes).2.isClosed = writer.isClosed := by
  unfold commit
  split <;> rfl

@[simp]
theorem buffers_commit (store : Store) (writer : FileWriter) (bytes : Bytes) :
    (writer.commit store bytes).1.buffers = store.buffers := by
  unfold commit
  split <;> rfl

@[simp]
theorem current_commit (store : Store) (writer : FileWriter) (bytes : Bytes) :
    (writer.commit store bytes).1.directory.current = store.directory.current := by
  unfold commit
  split <;> rfl

theorem content_commit_of_ne {other : Location} (different : other ≠ writer.location)
    (store : Store) (bytes : Bytes) :
    (writer.commit store bytes).1.directory.content other = store.directory.content other := by
  unfold commit
  split <;> exact Directory.content_put_of_ne different store.directory _

theorem reached_commit (sound : writer.IsSound store) (bytes : Bytes) :
    (writer.commit store bytes).2.reached (writer.commit store bytes).1
      = (writer.reached store).put bytes := by
  unfold commit
  cases found : writer.position with
  | none =>
      simp only [reached, found, Store.appendFile, Directory.append,
        Directory.content_put_self sound.below, Option.getD_none]
      simp [Memory.ofBytes, Memory.put, -List.length_append]
  | some position =>
      simp only [reached, found, Store.overwriteFile, Directory.overwrite,
        Directory.content_put_self sound.below, Option.getD_some]
      exact Memory.ofBytes_splice (sound.inside position found) bytes

theorem isSound_commit (sound : writer.IsSound store) (bytes : Bytes) :
    (writer.commit store bytes).2.IsSound (writer.commit store bytes).1 where
  below := by
    rw [location_commit, current_commit]
    exact sound.below
  inside := by
    intro later found
    unfold commit at found ⊢
    cases known : writer.position with
    | none => simp [known] at found
    | some position =>
        simp only [known, Option.mem_some_iff] at found
        simp only [Store.overwriteFile, Directory.overwrite,
          Directory.content_put_self sound.below,
          Bytes.splice_of_le (sound.inside position known)]
        simp only [List.length_append, List.length_take, List.length_drop]
        have within := sound.inside position known
        omega

/-- What becomes of bytes: they wait, or those before them are put into the file first. -/
theorem write_cases (store : Store) (writer : FileWriter) (bytes : Bytes) :
    let flushed := writer.commit store writer.pending
    writer.write store bytes = (store, { writer with pending := writer.pending ++ bytes }) ∨
      writer.write store bytes = (flushed.1, { flushed.2 with pending := bytes }) ∨
      writer.write store bytes = { flushed.2 with pending := [] }.commit flushed.1 bytes := by
  intro flushed
  by_cases waits : writer.pending.length + bytes.length ≤ capacity
  · refine Or.inl ?_
    rw [write, if_pos waits]
  · by_cases small : bytes.length ≤ capacity
    · refine Or.inr (Or.inl ?_)
      rw [write, if_neg waits]
      exact if_pos small
    · refine Or.inr (Or.inr ?_)
      rw [write, if_neg waits]
      exact if_neg small

@[simp]
theorem location_write (store : Store) (writer : FileWriter) (bytes : Bytes) :
    (writer.write store bytes).2.location = writer.location := by
  rcases write_cases store writer bytes with same | same | same <;> simp [same]

@[simp]
theorem isClosed_write (store : Store) (writer : FileWriter) (bytes : Bytes) :
    (writer.write store bytes).2.isClosed = writer.isClosed := by
  rcases write_cases store writer bytes with same | same | same <;> simp [same]

@[simp]
theorem buffers_write (store : Store) (writer : FileWriter) (bytes : Bytes) :
    (writer.write store bytes).1.buffers = store.buffers := by
  rcases write_cases store writer bytes with same | same | same <;> simp [same]

theorem content_write_of_ne {other : Location} (different : other ≠ writer.location)
    (store : Store) (bytes : Bytes) :
    (writer.write store bytes).1.directory.content other = store.directory.content other := by
  rcases write_cases store writer bytes with same | same | same
  · rw [same]
  · rw [same, content_commit_of_ne different]
  · rw [same, content_commit_of_ne (by simpa using different), content_commit_of_ne different]

theorem length_content_le_commit (store : Store) (writer : FileWriter) (bytes : Bytes)
    (location : Location) :
    (store.directory.content location).length
      ≤ ((writer.commit store bytes).1.directory.content location).length := by
  unfold commit
  split
  · refine Directory.length_content_le_put ?_ location
    rw [List.length_append]
    exact Nat.le_add_right _ _
  · exact Directory.length_content_le_put (Bytes.length_le_length_splice _ _ _) location

theorem length_content_le_write (store : Store) (writer : FileWriter) (bytes : Bytes)
    (location : Location) :
    (store.directory.content location).length
      ≤ ((writer.write store bytes).1.directory.content location).length := by
  have flushed := length_content_le_commit store writer writer.pending location
  rcases write_cases store writer bytes with same | same | same
  · simp only [same, Nat.le_refl]
  · rw [same]
    exact flushed
  · rw [same]
    exact Nat.le_trans flushed (length_content_le_commit _ _ bytes location)

/-- Whether bytes wait or not, the file is to hold them after those that it was to hold. -/
theorem contents_write (sound : writer.IsSound store) (bytes : Bytes) :
    (writer.write store bytes).2.contents (writer.write store bytes).1
      = (writer.contents store).put bytes := by
  have flushed := isSound_commit sound writer.pending
  have reached := reached_commit sound writer.pending
  rcases write_cases store writer bytes with same | same | same
  · rw [same, contents, contents, Memory.put_put]
    rfl
  · rw [same, contents, contents, ← reached]
    rfl
  · rw [same, contents, pending_commit, reached_commit (flushed.setPending []),
      Memory.put_nil, contents, ← reached]
    rfl

theorem isSound_write (sound : writer.IsSound store) (bytes : Bytes) :
    (writer.write store bytes).2.IsSound (writer.write store bytes).1 := by
  have flushed := isSound_commit sound writer.pending
  rcases write_cases store writer bytes with same | same | same
  · rw [same]
    exact sound.setPending (writer.pending ++ bytes)
  · rw [same]
    exact flushed.setPending bytes
  · rw [same]
    exact isSound_commit (flushed.setPending []) bytes

end FileWriter

end IndexWire
