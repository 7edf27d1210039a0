import IndexWire.Proofs.Store.Contents

/-!
# What stays in a directory

Nothing is ever removed from a directory: folders stay folders, files stay files, and the content of
a file changes only where something is written. `Keeps` says this of two states of a directory, but
for the files that may change. Paths that lead to a file or a folder go on to do so, because they
are followed through folders only.
-/

namespace IndexWire

section Steps

variable {ε α β : Type} {first : Except ε α}

theorem bind_eq_ok {next : α → Except ε β} {result : β} :
    (first >>= next) = .ok result ↔ ∃ value, first = .ok value ∧ next value = .ok result := by
  cases first <;> simp [bind, Except.bind]

theorem bind_eq_error {next : α → Except ε β} {fault : ε} :
    (first >>= next) = .error fault ↔
      first = .error fault ∨ ∃ value, first = .ok value ∧ next value = .error fault := by
  cases first <;> simp [bind, Except.bind]

theorem map_eq_ok {change : α → β} {result : β} :
    first.map change = .ok result ↔ ∃ value, first = .ok value ∧ change value = result := by
  cases first <;> simp [Except.map]

theorem map_eq_error {change : α → β} {fault : ε} :
    first.map change = .error fault ↔ first = .error fault := by
  cases first <;> simp [Except.map]

end Steps

namespace Directory

/-- Whether a file stands at a location. -/
def IsFile (directory : Directory) (location : Location) : Prop :=
  ∃ content, directory.entry? location = some (.file content)

/-- A later state of a directory, in which nothing but the content of some files has changed. -/
structure Keeps (changed : Location → Prop) (before after : Directory) : Prop where
  current : after.current = before.current
  folders : ∀ location, before.entry? location = some .folder →
    after.entry? location = some .folder
  files : ∀ location, before.IsFile location → after.IsFile location
  contents : ∀ location, ¬changed location → after.content location = before.content location

variable {directory before after : Directory} {changed : Location → Prop} {location : Location}

theorem IsFile.entry (file : directory.IsFile location) :
    directory.entry? location = some (.file (directory.content location)) := by
  rcases file with ⟨content, found⟩
  simp only [Directory.content, found]

theorem content_of_entry {content : Bytes}
    (found : directory.entry? location = some (.file content)) :
    directory.content location = content := by
  simp only [Directory.content, found]

theorem IsFile.noFolder (file : directory.IsFile location) :
    directory.entry? location ≠ some .folder := by
  rw [file.entry]
  simp

theorem IsFile.below (file : directory.IsFile location) : ¬location <+: directory.current :=
  below_of_noFolder file.noFolder

theorem entry_put_of_ne {other : Location} (different : other ≠ location) (directory : Directory)
    (entry : Entry) : Directory.entry? (directory.put location entry) other
      = directory.entry? other := by
  simp only [put, entry?, find?_putEntry_of_ne different]

theorem entry_put_self (noFolder : directory.entry? location ≠ some .folder) (entry : Entry) :
    Directory.entry? (directory.put location entry) location = some entry := by
  have outside : location.isPrefixOf directory.current = false := by
    simpa [← Bool.not_eq_true] using below_of_noFolder noFolder
  simp only [put, entry?, outside, find?_putEntry_self]
  rfl

namespace Keeps

theorem refl (changed : Location → Prop) (directory : Directory) :
    Keeps changed directory directory where
  current := rfl
  folders _ folder := folder
  files _ file := file
  contents _ _ := rfl

theorem trans {middle : Directory} (one : Keeps changed before middle)
    (two : Keeps changed middle after) : Keeps changed before after where
  current := two.current.trans one.current
  folders location folder := two.folders location (one.folders location folder)
  files location file := two.files location (one.files location file)
  contents location same := (two.contents location same).trans (one.contents location same)

theorem mono {more : Location → Prop} (keeps : Keeps changed before after)
    (wider : ∀ location, changed location → more location) : Keeps more before after where
  current := keeps.current
  folders := keeps.folders
  files := keeps.files
  contents location same := keeps.contents location fun change => same (wider location change)

/-- A file that is not changed is the same file afterwards. -/
theorem file (keeps : Keeps changed before after) (same : ¬changed location) {content : Bytes}
    (found : before.entry? location = some (.file content)) :
    after.entry? location = some (.file content) := by
  rw [(keeps.files location ⟨content, found⟩).entry, keeps.contents location same,
    content_of_entry found]

end Keeps

/-- A file takes the place of a file, or of nothing. -/
theorem keeps_put_file (noFolder : directory.entry? location ≠ some .folder) (content : Bytes) :
    Keeps (· = location) directory (directory.put location (.file content)) where
  current := rfl
  folders other folder := by
    have different : other ≠ location := by
      rintro rfl
      exact noFolder folder
    rw [entry_put_of_ne different]
    exact folder
  files other file := by
    by_cases same : other = location
    · subst same
      exact ⟨content, entry_put_self noFolder _⟩
    · rcases file with ⟨kept, found⟩
      exact ⟨kept, (entry_put_of_ne same directory _).trans found⟩
  contents other different := content_put_of_ne different directory _

/-- A folder or an empty file where nothing was changes nothing else. -/
theorem keeps_put_new (missing : directory.entry? location = none) {entry : Entry}
    (empty : ∀ content, entry = .file content → content = []) :
    Keeps (fun _ => False) directory (directory.put location entry) := by
  have noFolder : directory.entry? location ≠ some .folder := by simp [missing]
  have nothing : ∀ other found, directory.entry? other = some found → other ≠ location := by
    rintro other found there rfl
    rw [missing] at there
    cases there
  constructor
  case current => rfl
  case folders =>
    intro other folder
    rw [entry_put_of_ne (nothing other _ folder)]
    exact folder
  case files =>
    rintro other ⟨content, found⟩
    exact ⟨content, (entry_put_of_ne (nothing other _ found) directory _).trans found⟩
  case contents =>
    intro other unchanged
    by_cases same : other = location
    · subst same
      simp only [content, entry_put_self noFolder, missing]
      cases entry with
      | folder => rfl
      | file content => exact empty content rfl
    · exact content_put_of_ne same directory _

/-- Names lead to where they led. -/
theorem walk_of_keeps (keeps : Keeps changed before after) {here : Location} {names : List Text}
    (reached : before.walk here names = .ok location) :
    after.walk here names = .ok location := by
  induction names generalizing here with
  | nil => exact reached
  | cons name rest ih =>
      simp only [walk] at reached ⊢
      cases entry : before.entry? here with
      | none => simp [entry] at reached
      | some found =>
          cases found with
          | file content => simp [entry] at reached
          | folder =>
              simp only [entry, keeps.folders here entry] at reached ⊢
              split
              · rename_i up
                rw [if_pos up] at reached
                exact ih reached
              · rename_i down
                rw [if_neg down] at reached
                split at reached
                · cases reached
                · rename_i short
                  rw [if_neg short]
                  exact ih reached

/-- A path has a location if it can be used, and its names lead there. -/
theorem locate_eq_ok_iff {path : Path} :
    directory.locate path = .ok location ↔
      Path.check path.text = .ok () ∧ Path.byteCount path.text < pathLimit ∧
        directory.walk (directory.start path) path.names = .ok location := by
  unfold locate
  rw [bind_eq_ok]
  by_cases long : Path.byteCount path.text ≥ pathLimit
  · simp only [if_pos long]
    constructor
    · rintro ⟨usable, checked, ⟨⟩⟩
    · rintro ⟨checked, short, walked⟩
      exact absurd long (Nat.not_le.mpr short)
  · simp only [if_neg long]
    constructor
    · rintro ⟨usable, checked, walked⟩
      split at walked
      · rename_i reached
        cases walked
        exact ⟨checked, Nat.lt_of_not_le long, reached⟩
      · cases walked
    · rintro ⟨checked, short, walked⟩
      refine ⟨(), checked, ?_⟩
      simp only [walked]
      rfl

theorem locate_of_keeps (keeps : Keeps changed before after) {path : Path}
    (located : before.locate path = .ok location) : after.locate path = .ok location := by
  rw [locate_eq_ok_iff] at located ⊢
  rcases located with ⟨usable, short, walked⟩
  have start : after.start path = before.start path := by
    simp only [Directory.start, keeps.current]
  rw [start]
  exact ⟨usable, short, walk_of_keeps keeps walked⟩

theorem find_eq_ok_iff {path : Path} {entry : Entry} :
    directory.find path = .ok (location, entry) ↔
      directory.locate path = .ok location ∧ directory.entry? location = some entry := by
  unfold find
  rw [bind_eq_ok]
  constructor
  · rintro ⟨reached, located, found⟩
    split at found
    · rename_i there
      cases found
      exact ⟨located, there⟩
    · cases found
  · rintro ⟨located, there⟩
    refine ⟨location, located, ?_⟩
    simp only [there]
    rfl

theorem look_eq_ok_some_iff {path : Path} {entry : Entry} :
    directory.look path = .ok (some (location, entry)) ↔
      directory.locate path = .ok location ∧ directory.entry? location = some entry := by
  rw [← find_eq_ok_iff, look]
  split <;> simp_all

/-- A path that leads to a file that is not changed leads to the same file afterwards. -/
theorem look_of_keeps (keeps : Keeps changed before after) {path : Path} {content : Bytes}
    (found : before.look path = .ok (some (location, .file content)))
    (same : ¬changed location) : after.look path = .ok (some (location, .file content)) := by
  rw [look_eq_ok_some_iff] at found ⊢
  exact ⟨locate_of_keeps keeps found.1, keeps.file same found.2⟩

/-- A path that has a location leads to what stands there, or to nothing. -/
theorem look_of_locate {path : Path} (located : directory.locate path = .ok location) :
    directory.look path = .ok ((directory.entry? location).map fun entry => (location, entry)) := by
  cases found : directory.entry? location with
  | some entry => exact look_eq_ok_some_iff.mpr ⟨located, found⟩
  | none => simp [look, find, located, bind, Except.bind, found, throw, throwThe,
      MonadExceptOf.throw]

/-- A file is opened at its end, as it is or as a new one that is empty. -/
theorem openAppend_eq_ok {path : Path} (opened : before.openAppend path = .ok (location, after)) :
    before.locate path = .ok location ∧ before.entry? location ≠ some .folder ∧
      after.IsFile location ∧ Keeps (fun _ => False) before after := by
  unfold openAppend at opened
  rcases bind_eq_ok.mp opened with ⟨reached, located, opened⟩
  split at opened
  · cases opened
  · rename_i content found
    cases opened
    exact ⟨located, by simp [found], ⟨content, found⟩, Keeps.refl _ _⟩
  · rename_i found
    cases opened
    have noFolder : before.entry? location ≠ some .folder := by simp [found]
    refine ⟨located, noFolder, ⟨[], entry_put_self noFolder _⟩, keeps_put_new found ?_⟩
    rintro content ⟨⟩
    rfl

/-- A file can be opened at its end wherever a path leads, but for folders. -/
theorem openAppend_of_located {path : Path} (located : directory.locate path = .ok location) :
    if directory.entry? location = some .folder then
      directory.openAppend path = .error (.path .isFolder path.text)
    else ∃ opened, directory.openAppend path = .ok (location, opened) := by
  simp only [openAppend, located, bind, Except.bind]
  rcases directory.entry? location with _ | content | _
  · exact ⟨_, rfl⟩
  · exact ⟨_, rfl⟩
  · rfl

/-- What can be opened at its end can be emptied. -/
theorem openTruncate_of_locate {path : Path} (located : directory.locate path = .ok location)
    (noFolder : directory.entry? location ≠ some .folder) :
    directory.openTruncate path = .ok (location, directory.put location (.file [])) := by
  simp only [openTruncate, located, bind, Except.bind]
  rfl

/-- A file that is opened from its start is there. -/
theorem isFile_of_openTruncate {path : Path}
    (opened : before.openTruncate path = .ok (location, after)) : after.IsFile location := by
  unfold openTruncate at opened
  rcases bind_eq_ok.mp opened with ⟨reached, located, opened⟩
  split at opened
  · cases opened
  · rename_i noFolder
    cases opened
    exact ⟨[], entry_put_self noFolder _⟩

theorem keeps_makeFolder {path : Path} (made : before.makeFolder path = .ok after) :
    Keeps (fun _ => False) before after := by
  unfold makeFolder at made
  rcases bind_eq_ok.mp made with ⟨reached, located, made⟩
  split at made
  · cases made
  · rename_i missing
    cases made
    exact keeps_put_new missing (by simp)

theorem makeFolders_settle (directory : Directory) (path : Path) (fault : Fault) :
    (makeFolders.settle directory path fault).1 = directory := by
  unfold makeFolders.settle
  split <;> rfl

section Folders

variable {relates : Directory → Directory → Prop}
  (refl : ∀ directory, relates directory directory)
  (trans : ∀ {first second third : Directory}, relates first second → relates second third →
    relates first third)
  (each : ∀ {directory made : Directory} {path : Path}, directory.makeFolder path = .ok made →
    relates directory made)

include refl each

theorem makeFolders_once_relates (directory : Directory) (path : Path) :
    relates directory (makeFolders.once directory path).1 := by
  unfold makeFolders.once
  split
  · rename_i made
    exact each made
  · rw [makeFolders_settle]
    exact refl directory

include trans

/-- What one folder that is made does to a directory, folders do, also where the last one fails. -/
theorem makeFolders_relates (directory : Directory) (path : Path) :
    relates directory (directory.makeFolders path).1 := by
  unfold makeFolders
  generalize path.names.length = depth
  induction depth generalizing path with
  | zero => exact makeFolders_once_relates refl each directory path
  | succ depth ih =>
      unfold makeFolders.go
      split
      · rename_i made
        exact each made
      · split
        · exact refl directory
        · have above := ih path.parent
          split
          · rename_i fault failed
            rw [failed] at above
            exact above
          · rename_i made
            rw [made] at above
            exact trans above (makeFolders_once_relates refl each _ path)
      · rw [makeFolders_settle]
        exact refl directory

end Folders

/-- Making folders takes nothing away, also where it fails. -/
theorem keeps_makeFolders (directory : Directory) (path : Path) :
    Keeps (fun _ => False) directory (directory.makeFolders path).1 :=
  makeFolders_relates (Keeps.refl _) Keeps.trans keeps_makeFolder directory path

/-- A later state of a directory, in which no files are new but some. -/
def MakesOnly (made : Location → Prop) (before after : Directory) : Prop :=
  ∀ location, after.IsFile location → before.IsFile location ∨ made location

namespace MakesOnly

variable {made : Location → Prop}

theorem refl (made : Location → Prop) (directory : Directory) :
    MakesOnly made directory directory :=
  fun _ file => Or.inl file

theorem trans {middle : Directory} (one : MakesOnly made before middle)
    (two : MakesOnly made middle after) : MakesOnly made before after := by
  intro location file
  rcases two location file with there | new
  · exact one location there
  · exact Or.inr new

theorem mono {more : Location → Prop} (makes : MakesOnly made before after)
    (wider : ∀ location, made location → more location) : MakesOnly more before after :=
  fun location file => (makes location file).imp_right (wider location)

end MakesOnly

theorem makesOnly_makeFolder {path : Path} (made : before.makeFolder path = .ok after) :
    MakesOnly (fun _ => False) before after := by
  unfold makeFolder at made
  rcases bind_eq_ok.mp made with ⟨reached, located, made⟩
  split at made
  · cases made
  · rename_i missing
    cases made
    rintro location ⟨content, file⟩
    left
    by_cases same : location = reached
    · subst same
      rw [entry_put_self (by simp [missing])] at file
      cases file
    · rw [entry_put_of_ne same] at file
      exact ⟨content, file⟩

theorem makesOnly_makeFolders (directory : Directory) (path : Path) :
    MakesOnly (fun _ => False) directory (directory.makeFolders path).1 :=
  makeFolders_relates (MakesOnly.refl _) MakesOnly.trans makesOnly_makeFolder directory path

theorem makesOnly_openAppend {path : Path}
    (opened : before.openAppend path = .ok (location, after)) :
    MakesOnly (· = location) before after := by
  unfold openAppend at opened
  rcases bind_eq_ok.mp opened with ⟨reached, located, opened⟩
  split at opened
  · cases opened
  · cases opened
    exact MakesOnly.refl _ _
  · cases opened
    rintro other ⟨content, file⟩
    by_cases same : other = location
    · exact Or.inr same
    · rw [entry_put_of_ne same] at file
      exact Or.inl ⟨content, file⟩

end Directory

namespace FileWriter

variable {store : Store} {writer : FileWriter}

theorem keeps_commit (file : store.directory.IsFile writer.location) (bytes : Bytes) :
    Directory.Keeps (· = writer.location) store.directory
      (writer.commit store bytes).1.directory := by
  unfold commit
  split <;> exact Directory.keeps_put_file file.noFolder _

/-- Writing to a file changes nothing else in the directory. -/
theorem keeps_write (file : store.directory.IsFile writer.location) (bytes : Bytes) :
    Directory.Keeps (· = writer.location) store.directory
      (writer.write store bytes).1.directory := by
  have flushed := keeps_commit file writer.pending
  rcases write_cases store writer bytes with same | same | same
  · rw [same]
    exact Directory.Keeps.refl _ _
  · rw [same]
    exact flushed
  · have written := @keeps_commit (writer.commit store writer.pending).1
      { (writer.commit store writer.pending).2 with pending := [] }
      (by simpa using flushed.files _ file) bytes
    rw [same]
    exact flushed.trans (by simpa using written)

theorem position_commit (atEnd : writer.position = none) (store : Store) (bytes : Bytes) :
    (writer.commit store bytes).2.position = none := by
  simp only [commit, atEnd]

theorem position_write (atEnd : writer.position = none) (store : Store) (bytes : Bytes) :
    (writer.write store bytes).2.position = none := by
  have flushed := position_commit atEnd store writer.pending
  rcases write_cases store writer bytes with same | same | same
  · rw [same]
    exact atEnd
  · rw [same]
    exact flushed
  · rw [same]
    exact @position_commit { (writer.commit store writer.pending).2 with pending := [] } flushed _
      bytes

theorem content_isPrefix_commit (below : ¬writer.location <+: store.directory.current)
    (atEnd : writer.position = none) (bytes : Bytes) :
    store.directory.content writer.location
      <+: (writer.commit store bytes).1.directory.content writer.location := by
  simp only [commit, atEnd, Store.appendFile, Directory.append, Directory.content_put_self below]
  exact List.prefix_append _ _

/-- A writer at the end of a file leaves the bytes before it as they are. -/
theorem content_isPrefix_write (below : ¬writer.location <+: store.directory.current)
    (atEnd : writer.position = none) (bytes : Bytes) :
    store.directory.content writer.location
      <+: (writer.write store bytes).1.directory.content writer.location := by
  have flushed := content_isPrefix_commit below atEnd writer.pending
  have later := position_commit atEnd store writer.pending
  rcases write_cases store writer bytes with same | same | same
  · simp only [same, List.prefix_refl]
  · rw [same]
    exact flushed
  · have written := @content_isPrefix_commit (writer.commit store writer.pending).1
      { (writer.commit store writer.pending).2 with pending := [] } (by simpa using below) later
      bytes
    rw [same]
    refine flushed.trans ?_
    simpa using written

/-- Once a writer is closed, the file holds what it was to hold. -/
theorem content_close (sound : writer.IsSound store) :
    (writer.close store).1.directory.content writer.location = (writer.contents store).buffer := by
  have reached := congrArg Memory.buffer (reached_commit sound writer.pending)
  rw [FileWriter.reached, Memory.buffer_ofBytes, location_commit] at reached
  exact reached

theorem keeps_close (file : store.directory.IsFile writer.location) :
    Directory.Keeps (· = writer.location) store.directory (writer.close store).1.directory :=
  keeps_commit file writer.pending

end FileWriter

end IndexWire
