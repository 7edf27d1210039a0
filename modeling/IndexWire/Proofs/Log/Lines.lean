import IndexWire.Proofs.Log.Calls
import IndexWire.Proofs.Log.Keeping
import IndexWire.Proofs.Log.Ownership

/-!
# The lines of log files

A log is set up for JSON, called and shut down, over and over. Every file is what it was before, and
after that one line for each call that was made while a handler was on the file and whose level was
high enough, in the order of the calls.

`IsReady` is what each use keeps: the recorded handler is the only one of this library, it writes
JSON for loggers of its own family, and its file is there.
-/

namespace IndexWire

namespace Log

/-- What is done with a log. -/
inductive Use where
  | setup (settings : Settings)
  | call (call : Call)
  | shutdown

/-- A log and what it writes to. -/
structure Scene where
  log : Log
  output : Output

/-- Whether each of some calls is one line at the end of what was there before. -/
def Adds (calls : List Call) (before after : Bytes) : Prop :=
  ∃ lines : List (Call × Bytes), lines.map Prod.fst = calls ∧
    (∀ line ∈ lines, line.1.IsIn line.2) ∧
    after = before ++ lines.flatMap fun line => line.2 ++ [0x0A]

theorem Adds.none (content : Bytes) : Adds [] content content :=
  ⟨[], rfl, by simp, by simp⟩

theorem Adds.trans {earlier later : List Call} {before middle after : Bytes}
    (one : Adds earlier before middle) (two : Adds later middle after) :
    Adds (earlier ++ later) before after := by
  rcases one with ⟨first, calls, sound, rfl⟩
  rcases two with ⟨second, laterCalls, laterSound, rfl⟩
  refine ⟨first ++ second, by rw [List.map_append, calls, laterCalls], ?_, ?_⟩
  · intro line mem
    rcases List.mem_append.mp mem with among | among
    · exact sound line among
    · exact laterSound line among
  · rw [List.flatMap_append, List.append_assoc]

theorem Adds.exists_of_singleton {call : Call} {before after : Bytes}
    (adds : Adds [call] before after) :
    ∃ line, call.IsIn line ∧ after = before ++ line ++ [0x0A] := by
  rcases adds with ⟨lines, calls, sound, rfl⟩
  cases lines with
  | nil => cases calls
  | cons line lines =>
      rcases List.cons.inj calls with ⟨rfl, none⟩
      obtain rfl := List.map_eq_nil_iff.mp none
      exact ⟨line.2, sound line List.mem_cons_self, by simp⟩

/-- The file that a handler writes to, if it writes to one. -/
def Handler.location? : Handler → Option Location
  | .managed _ (.file location) _ => some location
  | _ => none

theorem Handler.location?_eq_some_iff {handler : Handler} {location : Location} :
    handler.location? = some location ↔
      ∃ number format, handler = .managed number (.file location) format := by
  cases handler with
  | foreign number => simp [location?]
  | managed number destination format =>
      cases destination with
      | stderr => simp [location?]
      | file other =>
          simp only [location?, Option.some.injEq, managed.injEq, Destination.file.injEq]
          constructor
          · rintro rfl
            exact ⟨number, format, rfl, rfl, rfl⟩
          · rintro ⟨_, _, -, same, -⟩
            exact same

instance (log : Log) (location : Location) : Decidable (log.WritesTo location) :=
  decidable_of_iff (∃ handler ∈ log.handlers, handler.location? = some location) <| by
    simp only [Handler.location?_eq_some_iff]
    constructor
    · rintro ⟨_, mem, number, format, rfl⟩
      exact ⟨number, format, mem⟩
    · rintro ⟨number, format, mem⟩
      exact ⟨_, mem, number, format, rfl⟩

namespace Scene

/-- What a use makes of a log; a call that fails hands nothing on. -/
def use (scene : Scene) : Use → Scene
  | .setup settings =>
    let setup := scene.log.setup scene.output.directory settings
    ⟨setup.log, { scene.output with directory := setup.directory }⟩
  | .call call =>
    match call.request scene.log with
    | .ok record => { scene with output := scene.log.emit call.stamp scene.output record }
    | .error _ => scene
  | .shutdown => { scene with log := scene.log.shutdown }

def after (scene : Scene) (uses : List Use) : Scene := uses.foldl use scene

/--
Whether a use, if it sets the log up, succeeds and asks for JSON, and if it is a call, is free.
-/
def Admits (scene : Scene) : Use → Prop
  | .setup settings =>
    Layout.ofSetting settings.logFormat = .json ∧
      ∃ handler, (scene.log.setup scene.output.directory settings).result = .ok handler
  | .call call => call.IsFree scene.log.loggers
  | .shutdown => True

def AdmitsAll : Scene → List Use → Prop
  | _, [] => True
  | scene, use :: uses => scene.Admits use ∧ AdmitsAll (scene.use use) uses

/-- The call that a use is, if it is to be written to the file at a location. -/
def due (scene : Scene) (location : Location) : Use → List Call
  | .call call =>
    if scene.log.WritesTo location ∧ scene.log.level ≤ call.method.level then [call] else []
  | _ => []

/-- The calls that are to be written to the file at a location, in their order. -/
def dueCalls (location : Location) : Scene → List Use → List Call
  | _, [] => []
  | scene, use :: uses => scene.due location use ++ dueCalls location (scene.use use) uses

def content (scene : Scene) (location : Location) : Bytes :=
  scene.output.directory.content location

structure IsReady (scene : Scene) : Prop where
  managed : scene.log.handlers.filter Handler.isManaged = scene.log.recorded.toList
  json : ∀ number destination format,
    scene.log.recorded = some (.managed number destination format) →
    format = ⟨scene.log.loggers, .json⟩
  opened : scene.log.IsOpen scene.output.directory

end Scene

theorem foldl_handle_managed (stamp : Stamp) (record : Record) (handlers : List Handler)
    (output : Output) :
    handlers.foldl (fun output handler => handler.handle stamp record output) output
      = (handlers.filter Handler.isManaged).foldl
        (fun output handler => handler.handle stamp record output) output := by
  induction handlers generalizing output with
  | nil => rfl
  | cons handler rest ih =>
      cases handler with
      | foreign number => exact ih output
      | managed number destination format => exact ih _

/-- Only this library's handlers change files. -/
theorem directory_emit {log : Log} {record : Record}
    (enabled : log.isEnabledFor record.level = true)
    (stamp : Stamp) (output : Output) :
    (log.emit stamp output record).directory
      = ((log.handlers.filter Handler.isManaged).foldl
        (fun output handler => handler.handle stamp record output) output).directory := by
  rw [emit, if_pos enabled]
  split
  · rename_i none
    rw [none]
    unfold lastResort
    split <;> rfl
  · rw [foldl_handle_managed]

theorem isEnabledFor_level {log : Log} {method : Method} :
    log.isEnabledFor method.level = true ↔ log.level ≤ method.level := by
  have positive : 0 < method.level := by
    cases method <;> decide
  simp [isEnabledFor, positive]

namespace Scene

variable {scene : Scene}

namespace IsReady

theorem writesTo_iff (ready : scene.IsReady) {location : Location} :
    scene.log.WritesTo location ↔
      ∃ number, scene.log.recorded
        = some (.managed number (.file location) ⟨scene.log.loggers, .json⟩) := by
  have mem_iff : ∀ handler : Handler, handler.isManaged = true →
      (handler ∈ scene.log.handlers ↔ scene.log.recorded = some handler) := by
    intro handler managed
    have same : handler ∈ scene.log.handlers.filter Handler.isManaged ↔
        handler ∈ scene.log.recorded.toList := by rw [ready.managed]
    simpa [managed, Option.mem_toList] using same
  constructor
  · rintro ⟨number, format, mem⟩
    have recorded := (mem_iff _ rfl).mp mem
    have same := ready.json _ _ _ recorded
    exact ⟨number, same ▸ recorded⟩
  · rintro ⟨number, recorded⟩
    exact ⟨number, _, (mem_iff _ rfl).mpr recorded⟩

theorem setup {settings : Settings} (ready : scene.IsReady)
    (admits : scene.Admits (.setup settings)) :
    (scene.use (.setup settings)).IsReady ∧
      ∀ location, (scene.use (.setup settings)).content location = scene.content location := by
  rcases admits with ⟨json, handler, success⟩
  have keeps := keeps_setup ready.opened settings
  refine ⟨?_, fun location => keeps.1.contents location not_false⟩
  rcases setup_cases scene.log scene.output.directory settings with
    ⟨⟨fault, failed⟩, -⟩ | ⟨destination, format, chosen, ⟨⟨fault, failed⟩, -⟩ | ⟨level, -, same⟩⟩
  · rw [failed] at success
    cases success
  · rw [failed] at success
    cases success
  · have layout : format.layout = .json := by
      unfold Format.ofSettings at chosen
      cases family : Family.ofSetting settings.logFormatter with
      | error fault => simp [family, Except.map] at chosen
      | ok family =>
          simp only [family, Except.map, Except.ok.injEq] at chosen
          rw [← chosen]
          exact json
    constructor
    case managed =>
      simp only [use, same]
      exact managed_replaceManaged scene.log destination format
    case json =>
      intro number place other recorded
      simp only [use, same, Option.some.injEq, Handler.managed.injEq] at recorded ⊢
      rw [← recorded.2.2, ← layout]
    case opened => exact keeps.2

theorem shutdown (ready : scene.IsReady) : (scene.use .shutdown).IsReady := by
  have managed := ready.managed
  cases recorded : scene.log.recorded with
  | none =>
      rw [recorded] at managed
      constructor
      case managed => simpa [use, Log.shutdown, recorded] using managed
      case json => simp [use, Log.shutdown, recorded]
      case opened =>
        simp only [use, Log.shutdown, recorded]
        exact ready.opened
  | some handler =>
      rw [recorded] at managed
      have none : (scene.log.handlers.filter (· ≠ handler)).filter Handler.isManaged = [] := by
        rw [List.filter_filter, List.filter_congr (fun _ _ => Bool.and_comm _ _),
          ← List.filter_filter, managed]
        simp
      constructor
      case managed =>
        simp only [use, Log.shutdown, recorded]
        exact none
      case json => simp [use, Log.shutdown, recorded]
      case opened =>
        simp only [use, Log.shutdown, recorded]
        rintro location ⟨number, format, mem⟩
        exact ready.opened location ⟨number, format, (List.mem_filter.mp mem).1⟩

theorem call {call : Call} (ready : scene.IsReady) (free : call.IsFree scene.log.loggers) :
    (scene.use (.call call)).IsReady ∧
      ∀ location, Adds (scene.due location (.call call)) (scene.content location)
        ((scene.use (.call call)).content location) := by
  have after : scene.use (.call call)
      = { scene with
          output := scene.log.emit call.stamp scene.output (call.record scene.log.loggers) } := by
    simp only [use, call.request_of_isFree free]
  have keeps := keeps_emit call.stamp (call.record scene.log.loggers) ready.opened
  rw [after]
  refine ⟨⟨ready.managed, ready.json, ready.opened.of_keeps keeps⟩, ?_⟩
  intro location
  by_cases due : scene.log.WritesTo location ∧ scene.log.level ≤ call.method.level
  · rcases due with ⟨writes, level⟩
    rcases ready.writesTo_iff.mp writes with ⟨number, recorded⟩
    rcases Call.exists_line free with ⟨line, encoded, sound⟩
    have written : (scene.log.emit call.stamp scene.output
        (call.record scene.log.loggers)).directory
        = scene.output.directory.append location (line ++ [0x0A]) := by
      rw [directory_emit (isEnabledFor_level.mpr level), ready.managed, recorded]
      simp only [Option.toList_some, List.foldl_cons, List.foldl_nil, Handler.handle,
        Call.render?_of_isFree free, Option.elim_some, Output.write, Output.appendLine, encoded]
    have below := (ready.opened location writes).below
    refine ⟨[(call, line)], ?_, by simpa using sound, ?_⟩
    · rw [Scene.due, if_pos ⟨writes, level⟩]
      rfl
    · simp [content, written, Directory.append, Directory.content_put_self below]
  · rw [Scene.due, if_neg due]
    have same : (scene.log.emit call.stamp scene.output
        (call.record scene.log.loggers)).directory.content location = scene.content location := by
      by_cases level : scene.log.level ≤ call.method.level
      · exact keeps.contents location fun writes => due ⟨writes, level⟩
      · have disabled : ¬scene.log.isEnabledFor call.method.level = true :=
          fun enabled => level (isEnabledFor_level.mp enabled)
        have idle : scene.log.emit call.stamp scene.output (call.record scene.log.loggers)
            = scene.output := if_neg disabled
        rw [idle]
        rfl
    simp only [content] at same ⊢
    rw [same]
    exact Adds.none _

theorem use {use : Use} (ready : scene.IsReady) (admits : scene.Admits use) :
    (scene.use use).IsReady ∧
      ∀ location, Adds (scene.due location use) (scene.content location)
        ((scene.use use).content location) := by
  cases use with
  | setup settings =>
      have made := ready.setup admits
      refine ⟨made.1, fun location => ?_⟩
      rw [made.2]
      exact Adds.none _
  | call call => exact ready.call admits
  | shutdown => exact ⟨ready.shutdown, fun location => Adds.none _⟩

/-- What a use adds, all uses add one after another. -/
theorem after {uses : List Use} (ready : scene.IsReady) (admits : scene.AdmitsAll uses)
    (location : Location) :
    Adds (dueCalls location scene uses) (scene.content location)
      ((scene.after uses).content location) := by
  induction uses generalizing scene with
  | nil => exact Adds.none _
  | cons use uses ih =>
      have step := ready.use admits.1
      exact (step.2 location).trans (ih step.1 admits.2)

end IsReady

/-- Before a log is set up there are handlers of others only. -/
theorem isReady_fresh (foreign : List Nat) (level : Level) (output : Output) :
    IsReady ⟨{ handlers := foreign.map .foreign, level }, output⟩ where
  managed := by simp [Handler.isManaged]
  json := by simp
  opened := by
    rintro location ⟨number, format, mem⟩
    simp at mem

end Scene

/--
However often a log is set up for JSON, called and shut down: every file holds what it held, and
after that one line for each call that was made while a handler was on the file and whose level was
at least that of the log, in the order of the calls. A line is in printable ASCII, and reads as one
object that has what its call tells.
-/
theorem lines_appended (foreign : List Nat) (level : Level) (output : Output) (uses : List Use)
    (admits : Scene.AdmitsAll ⟨{ handlers := foreign.map .foreign, level }, output⟩ uses)
    (location : Location) :
    let start : Scene := ⟨{ handlers := foreign.map .foreign, level }, output⟩
    ∃ lines : List (Call × Bytes),
      lines.map Prod.fst = Scene.dueCalls location start uses ∧
        (∀ line ∈ lines, line.1.IsIn line.2) ∧
        (start.after uses).output.directory.content location
          = output.directory.content location ++ lines.flatMap fun line => line.2 ++ [0x0A] :=
  (Scene.isReady_fresh foreign level output).after admits location

/-- Settings of a log that writes JSON to a file. -/
def fileSettings (path : String) : Settings where
  logFormatter := .text (Text.ofString "stdlib")
  logDestination := .text (Text.ofString "jsonl")
  jsonlPath := .text (Text.ofString path)

/-- A call of the logger without a name, with one field. -/
def note (method : Method) (value : Value) : Call where
  stamp := ⟨[], []⟩
  method := method
  logger := []
  event := Text.ofString "a\nb"
  fields := [(Text.ofString "k", value)]

theorem isFree_note {method : Method} (shared : (method.name, method) ∈ Family.sharedMethods)
    {value : Value} (readable : Json.isReadable value = true) (family : Family) :
    (note method value).IsFree family where
  shared := shared
  distinct := by simp [note]
  free := by
    simp only [note, List.forall_mem_singleton]
    cases family <;> decide
  readable := by simpa [note] using readable

/-- A scene with a handler of others, and with one file. -/
def Scene.ofFile (path : String) (content : Bytes) : Scene where
  log := { handlers := [.foreign 1] }
  output := { directory := { entries := [([Text.ofString path], .file content)] } }

/-- A call that is not grave enough, one that is, and one that comes after shutdown. -/
def threeNotes : List Use :=
  [.setup (fileSettings "a.jsonl"), .call (note .debug .none),
    .call (note .warning (.list [.none, .bytes .constant [0]])), .shutdown,
    .call (note .error .none)]

/-- The line of a call follows what the file held, also where that does not end with a line feed. -/
theorem lines_appended_to_open_line :
    ∃ line, (note .warning (.list [.none, .bytes .constant [0]])).IsIn line ∧
      ((Scene.ofFile "a.jsonl" [0x61]).after threeNotes).content [Text.ofString "a.jsonl"]
        = [0x61] ++ line ++ [0x0A] := by
  have admits : (Scene.ofFile "a.jsonl" [0x61]).AdmitsAll threeNotes :=
    ⟨⟨rfl, .managed 0 (.file [Text.ofString "a.jsonl"]) ⟨.plain, .json⟩, rfl⟩,
      isFree_note (by decide) rfl _, isFree_note (by decide) rfl _, trivial,
      isFree_note (by decide) rfl _, trivial⟩
  have due : Scene.dueCalls [Text.ofString "a.jsonl"] (Scene.ofFile "a.jsonl" [0x61]) threeNotes
      = [note .warning (.list [.none, .bytes .constant [0]])] := by rfl
  have added : Adds (Scene.dueCalls [Text.ofString "a.jsonl"] (Scene.ofFile "a.jsonl" [0x61])
      threeNotes) [0x61]
      (((Scene.ofFile "a.jsonl" [0x61]).after threeNotes).content [Text.ofString "a.jsonl"]) :=
    lines_appended [1] .warning (Scene.ofFile "a.jsonl" [0x61]).output threeNotes admits
      [Text.ofString "a.jsonl"]
  rw [due] at added
  exact added.exists_of_singleton

/--
A pair of surrogates that a field has as two code points is one code point in the line, so no line
carries this field.
-/
theorem pair_is_joined :
    let path : Location := [Text.ofString "a.jsonl"]
    let pair : Value := .text [.ofNat 0xD83D, .ofNat 0xDE00]
    let uses : List Use := [.setup (fileSettings "a.jsonl"), .call (note .warning pair)]
    let start := Scene.ofFile "a.jsonl" []
    start.AdmitsAll uses ∧ Scene.dueCalls path start uses = [note .warning pair] ∧
      ¬∃ line text entries,
        (start.after uses).content path = line ++ [0x0A] ∧
        Utf8.decode line = .ok text ∧ Json.read? text = some (.dict entries, []) ∧
        Value.member? (Text.ofString "k") (.dict entries) = some pair := by
  intro path pair uses start
  have admits : start.AdmitsAll uses :=
    ⟨⟨rfl, .managed 0 (.file path) ⟨.plain, .json⟩, rfl⟩, isFree_note (by decide) rfl _, trivial⟩
  have due : Scene.dueCalls path start uses = [note .warning pair] := by rfl
  refine ⟨admits, due, ?_⟩
  rintro ⟨line, text, entries, content, decoded, read, told⟩
  have added : Adds (Scene.dueCalls path start uses) [] ((start.after uses).content path) :=
    (Scene.isReady_fresh [1] .warning start.output).after admits path
  rw [due] at added
  rcases added.exists_of_singleton with ⟨written, carried, whole⟩
  obtain rfl := List.append_cancel_right (content.symm.trans whole)
  rcases carried.object with ⟨_, _, decoded', read', carried⟩
  rw [decoded, Except.ok.injEq] at decoded'
  subst decoded'
  rw [read] at read'
  cases read'
  have joined := carried.fields [] (Text.ofString "k") pair [] rfl (by simp)
  rw [show (Text.ofString "k").joined = Text.ofString "k" from rfl, told, Option.some.injEq,
    Json.image, Value.text.injEq] at joined
  revert joined
  decide

end Log

end IndexWire
