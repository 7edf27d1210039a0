import IndexWire.Log.Basic
import IndexWire.Proofs.Directory.Keeping

/-!
# What a log leaves of a directory

Setting up a log makes folders and an empty file at most. From then on the log writes to the files
of its handlers, which were there when it was set up, and to no others.
-/

namespace IndexWire

namespace Log

/-- Whether a handler of a log writes to the file at a location. -/
def WritesTo (log : Log) (location : Location) : Prop :=
  ∃ number format, Handler.managed number (.file location) format ∈ log.handlers

/-- Whether all files are there that a log writes to. -/
def IsOpen (log : Log) (directory : Directory) : Prop :=
  ∀ location, log.WritesTo location → directory.IsFile location

variable {log : Log}

theorem IsOpen.of_keeps {before after : Directory} {changed : Location → Prop}
    (opened : log.IsOpen before) (keeps : Directory.Keeps changed before after) :
    log.IsOpen after :=
  fun location writes => keeps.files location (opened location writes)

theorem isOpen_of_no_handlers (none : log.handlers = []) (directory : Directory) :
    log.IsOpen directory := by
  rintro location ⟨number, format, mem⟩
  simp [none] at mem

theorem keeps_write {output : Output} {destination : Destination}
    (there : ∀ location, destination = .file location → output.directory.IsFile location)
    (line : Text) :
    Directory.Keeps (fun location => destination = .file location) output.directory
      (output.write destination line).directory := by
  cases destination with
  | stderr => exact Directory.Keeps.refl _ _
  | file location =>
      simp only [Output.write, Output.appendLine]
      split
      · refine (Directory.keeps_put_file (there location rfl).noFolder _).mono ?_
        rintro other rfl
        rfl
      · exact Directory.Keeps.refl _ _

theorem keeps_handle (stamp : Stamp) (record : Record) {output : Output} {handler : Handler}
    (mem : handler ∈ log.handlers) (opened : log.IsOpen output.directory) :
    Directory.Keeps log.WritesTo output.directory
      (handler.handle stamp record output).directory := by
  cases handler with
  | foreign number => exact Directory.Keeps.refl _ _
  | managed number destination format =>
      simp only [Handler.handle]
      cases format.render? stamp record with
      | none => exact Directory.Keeps.refl _ _
      | some line =>
          have writes : ∀ location, destination = .file location → log.WritesTo location := by
            rintro location rfl
            exact ⟨number, format, mem⟩
          refine (keeps_write ?_ line).mono writes
          exact fun location same => opened location (writes location same)

theorem keeps_handleAll (stamp : Stamp) (record : Record) {output : Output}
    {handlers : List Handler} (part : ∀ handler ∈ handlers, handler ∈ log.handlers)
    (opened : log.IsOpen output.directory) :
    Directory.Keeps log.WritesTo output.directory
      (handlers.foldl (fun output handler => handler.handle stamp record output)
        output).directory := by
  induction handlers generalizing output with
  | nil => exact Directory.Keeps.refl _ _
  | cons handler rest ih =>
      rw [List.forall_mem_cons] at part
      have first := keeps_handle stamp record part.1 opened
      exact first.trans (ih part.2 (opened.of_keeps first))

/-- Records change the files of the handlers only. -/
theorem keeps_emit (stamp : Stamp) {output : Output} (record : Record)
    (opened : log.IsOpen output.directory) :
    Directory.Keeps log.WritesTo output.directory (log.emit stamp output record).directory := by
  unfold emit
  split
  · split
    · unfold lastResort
      split <;> exact Directory.Keeps.refl _ _
    · exact keeps_handleAll stamp record (fun handler mem => mem) opened
  · exact Directory.Keeps.refl _ _

theorem keeps_emitAll (stamp : Stamp) (records : List Record) {output : Output}
    (opened : log.IsOpen output.directory) :
    Directory.Keeps log.WritesTo output.directory
      (log.emitAll stamp output records).directory := by
  unfold emitAll
  induction records generalizing output with
  | nil => exact Directory.Keeps.refl _ _
  | cons record rest ih =>
      have first := keeps_emit stamp record opened
      exact first.trans (ih (opened.of_keeps first))

/-- Records for which there is no handler change no file. -/
theorem directory_emitAll_of_no_handlers (none : log.handlers = []) (stamp : Stamp)
    (records : List Record) (output : Output) :
    (log.emitAll stamp output records).directory = output.directory := by
  unfold emitAll
  induction records generalizing output with
  | nil => rfl
  | cons record rest ih =>
      refine (ih _).trans ?_
      simp only [emit, none, lastResort]
      split
      · split <;> rfl
      · rfl

/-- Opening a log file makes it, and folders above it, and changes nothing that is there. -/
theorem keeps_openFile (directory : Directory) (path : Path) :
    let opened := Destination.openFile directory path
    Directory.Keeps (fun _ => False) directory opened.1 ∧
      ∀ location, opened.2 = .ok (.file location) → opened.1.IsFile location := by
  have folders := Directory.keeps_makeFolders directory path.parent
  unfold Destination.openFile
  split
  · rename_i made fault failed
    rw [failed] at folders
    exact ⟨folders, by simp⟩
  · rename_i made success
    rw [success] at folders
    split
    · rename_i location opened found
      rcases Directory.openAppend_eq_ok found with ⟨-, -, file, keeps⟩
      refine ⟨folders.trans keeps, ?_⟩
      rintro other ⟨⟩
      exact file
    · exact ⟨folders, by simp⟩

theorem keeps_ofSettings (directory : Directory) (settings : Settings) :
    let opened := Destination.ofSettings directory settings
    Directory.Keeps (fun _ => False) directory opened.1 ∧
      ∀ location, opened.2 = .ok (.file location) → opened.1.IsFile location := by
  have same : Directory.Keeps (fun _ => False) directory directory := Directory.Keeps.refl _ _
  unfold Destination.ofSettings
  simp only
  split
  · exact ⟨same, by simp⟩
  · split
    · exact ⟨same, by simp⟩
    · split
      · split
        · exact keeps_openFile directory _
        · exact ⟨same, by simp⟩
      · exact ⟨same, by simp⟩

/-- Setting up a log changes nothing that is there, and all files of the log are there then. -/
theorem keeps_setup {directory : Directory} (opened : log.IsOpen directory) (settings : Settings) :
    let setup := log.setup directory settings
    Directory.Keeps (fun _ => False) directory setup.directory ∧
      setup.log.IsOpen setup.directory := by
  have same : Directory.Keeps (fun _ => False) directory directory := Directory.Keeps.refl _ _
  have made := keeps_ofSettings directory settings
  unfold setup
  split
  · exact ⟨same, opened⟩
  · rename_i format chosen
    split
    · rename_i after fault failed
      rw [failed] at made
      exact ⟨made.1, opened.of_keeps made.1⟩
    · rename_i after destination success
      rw [success] at made
      have replaced : (log.replaceManaged destination format).IsOpen after := by
        rintro location ⟨number, other, mem⟩
        rcases List.mem_append.mp mem with before | new
        · have managed := (List.mem_filter.mp before).1
          exact made.1.files location (opened location ⟨number, other, managed⟩)
        · rw [List.mem_singleton] at new
          cases new
          exact made.2 location rfl
      split
      · exact ⟨made.1, replaced⟩
      · exact ⟨made.1, replaced⟩

/-- Opening a log file makes no other file. -/
theorem makesOnly_openFile (directory : Directory) (path : Path) :
    let opened := Destination.openFile directory path
    Directory.MakesOnly (fun location => opened.2 = .ok (.file location)) directory opened.1 := by
  have folders := Directory.makesOnly_makeFolders directory path.parent
  unfold Destination.openFile
  split
  · rename_i made fault failed
    rw [failed] at folders
    exact folders.mono fun location never => never.elim
  · rename_i made success
    rw [success] at folders
    split
    · rename_i location opened found
      apply (folders.mono fun location never => never.elim).trans
      apply (Directory.makesOnly_openAppend found).mono
      rintro other rfl
      rfl
    · exact folders.mono fun location never => never.elim

theorem makesOnly_ofSettings (directory : Directory) (settings : Settings) :
    let opened := Destination.ofSettings directory settings
    Directory.MakesOnly (fun location => opened.2 = .ok (.file location)) directory opened.1 := by
  unfold Destination.ofSettings
  simp only
  split
  · exact Directory.MakesOnly.refl _ _
  · split
    · exact Directory.MakesOnly.refl _ _
    · split
      · split
        · exact makesOnly_openFile directory _
        · exact Directory.MakesOnly.refl _ _
      · exact Directory.MakesOnly.refl _ _

/-- Setting up a log makes no file that the log does not write to. -/
theorem makesOnly_setup (log : Log) (directory : Directory) (settings : Settings) :
    let setup := log.setup directory settings
    Directory.MakesOnly setup.log.WritesTo directory setup.directory := by
  have made := makesOnly_ofSettings directory settings
  unfold setup
  split
  · exact Directory.MakesOnly.refl _ _
  · rename_i format chosen
    split
    · rename_i after fault failed
      rw [failed] at made
      apply made.mono
      rintro location ⟨⟩
    · rename_i after destination success
      rw [success] at made
      have replaced : Directory.MakesOnly (log.replaceManaged destination format).WritesTo directory
          after := by
        apply made.mono
        rintro location ⟨⟩
        exact ⟨log.made, format, List.mem_append_right _ (List.mem_singleton_self _)⟩
      split
      · exact replaced
      · exact replaced

end Log

end IndexWire
