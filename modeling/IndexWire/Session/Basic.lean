import IndexWire.Settings.Load
import IndexWire.Sink.Basic

/-!
# Sessions

Named buffers, sinks and sources that share one store, with the environment and the settings around
them. `step` makes one call and tells how it ended; what the call reported comes with it.
-/

namespace IndexWire

inductive Object where
  | buffer (id : BufferId)
  | sink (sink : Sink)
  | source (source : Source)

/-- The name of the kind of an object in messages. -/
def Object.kindName : Object → String
  | buffer _ => "bytearray"
  | sink { destination := .memory _, .. } => "MemorySink"
  | sink { destination := .counter _, .. } => "CountingSink"
  | sink { destination := .region _, .. } => "FixedMemorySink"
  | sink { destination := .stream _, .. } => "StreamSink"
  | sink { destination := .recorder _, .. } => "RecordingSink"
  | source (.memory _ _) => "MemorySource"
  | source (.stream _) => "StreamSource"

/-- The names of the methods of an object that a session can call. -/
def Object.methods : Object → List String
  | buffer _ => []
  | sink { destination, .. } =>
    let own :=
      match destination with
      | .memory _ | .region _ => ["reset"]
      | .stream _ => ["flush", "close", "__enter__", "__exit__"]
      | .counter _ | .recorder _ => []
    Request.methods ++ ["copy_bytes"] ++ own
  | source (.memory _ _) => ["read_byte", "read_bytes"]
  | source (.stream _) => ["read_bytes"]

/-- Named objects and what they share. -/
structure Session where
  store : Store := {}
  /-- The variables of the environment, and the home folders. -/
  environment : Environment := {}
  /-- The settings, once they have been asked for. -/
  settings : Settings.Cache := none
  objects : List (Text × Object) := []

namespace Session

/-- Bytes that a call is given. -/
inductive Data where
  | own (bytes : Bytes)
  | shared (name : Text)
  | view (name : Text)

/-- What a new sink writes to. -/
inductive Target where
  /-- A buffer that grows. -/
  | memory
  /-- A count of the bytes. -/
  | counter
  /-- A window of a named buffer; nothing may be given in the place of its start. -/
  | region (buffer : Text) (offset length : Option Int)
  /-- A device; the stream has a name that is given, or else the device's own, or else none. -/
  | stream (given own : Option Text) (writer : Writer)
  | recorder (recorder : Recorder)

inductive Step where
  | newBuffer (name : Text) (data : Data)
  /-- Makes a sink; without a policy it takes the one of the settings. -/
  | newSink (name : Text) (policy : Option Value) (target : Target)
  | newMemorySource (name : Text) (data : Data) (offset : Option Int)
  /-- Makes a source that reads from a device; the device gets its bytes from the data. -/
  | newStreamSource (name : Text) (data : Data) (reader : Reader)
  | write (name : Text) (request : Request)
  | writeBytes (name : Text) (data : Data) (offset : Int) (length : Option Int)
  | copy (name source : Text) (count : Int)
  /-- Moves the cursor of a sink; the call may be given a position, which may be nothing. -/
  | reset (name : Text) (offset : Option (Option Int))
  | flush (name : Text)
  | close (name : Text)
  /-- Begins to use a stream, which is then the same as before. -/
  | enter (name : Text)
  /-- Ends the use of a stream, which closes it. -/
  | leave (name : Text)
  | readByte (name : Text)
  | readBytes (name buffer : Text) (offset length : Int)
  /-- Sets a variable of the environment or, without a value, removes it. -/
  | setVariable (name : Text) (value : Value)
  /-- Writes a file, and makes the folders above it. -/
  | writeFile (path : Path) (content : Bytes)
  | resetSettings
  | getSettings (path : Option Path)
  /-- Loads settings, whether there are some or not. -/
  | loadSettings (path : Option Path)
  /-- Makes settings that nothing else has, of entries that name them. -/
  | makeSettings (entries : List (Text × Value))
  /-- Changes one of the settings, which is not checked. -/
  | assignSetting (field : Settings.Field) (value : Value)

inductive Outcome where
  | done
  | truth (truth : Bool)
  | byte (byte : UInt8)
  | policy (policy : SurrogatePolicy)
  | settings (settings : Settings)
  | failed (fault : Fault)
  | noObject

/-- A session after a call, how the call ended, and what it reported. -/
structure Answer where
  session : Session
  outcome : Outcome
  /-- What the call reported, oldest first. -/
  notices : List Notice := []

def object? (session : Session) (name : Text) : Option Object :=
  (session.objects.find? fun entry => entry.1 = name).map Prod.snd

def buffer? (session : Session) (name : Text) : Option BufferId :=
  match session.object? name with
  | some (.buffer id) => some id
  | _ => none

def setObject (session : Session) (name : Text) (object : Object) : Session :=
  { session with objects := putEntry (fun left right => left = right) session.objects name object }

/-- The shared buffer that a source has a view of. -/
def viewed? : Source → Option BufferId
  | .memory (.shared id) _ => some id
  | .stream (.reader { data := .shared id, isView := true, .. }) => some id
  | _ => none

/-- The session without the object of a name. A source gives up its view of a shared buffer. -/
def drop (session : Session) (name : Text) : Session :=
  let store :=
    match session.object? name with
    | some (.source source) => (viewed? source).elim session.store session.store.unpin
    | _ => session.store
  { session with store, objects := session.objects.filter fun entry => entry.1 ≠ name }

/-- The session in which a name stands for a source, which takes its view of a shared buffer. -/
def setSource (session : Session) (name : Text) (source : Source) : Session :=
  let store := (viewed? source).elim session.store session.store.pin
  { session with store }.setObject name (.source source)

def failed (session : Session) (fault : Fault) : Answer := ⟨session, .failed fault, []⟩

/-- A session after a call that names an object that is not there. -/
def noObject (session : Session) : Answer := ⟨session, .noObject, []⟩

/-- A session after a call that asks the object of a name for something that its kind lacks. -/
def lacking (session : Session) (name : Text) (method : String) : Answer :=
  match session.object? name with
  | none => session.noObject
  | some object => session.failed (.noAttribute object.kindName (Text.ofString method))

/--
A session after a call of a method for which an argument could not be made. Whether there is such a
method is found out first.
-/
def refused (session : Session) (name : Text) (method : String) (outcome : Outcome) : Answer :=
  if (session.object? name).any fun object => object.methods.contains method then
    ⟨session, outcome, []⟩
  else session.lacking name method

def outcomeOf (fault : Option Fault) : Outcome := fault.elim .done .failed

/-- What a call is given, if it is there. -/
def content? (session : Session) : Data → Option Content
  | .own bytes => some (.own bytes)
  | .shared name | .view name => (session.buffer? name).map .shared

/-- The bytes that a call is given, if they are there. -/
def bytes? (session : Session) (data : Data) : Option Bytes :=
  (session.content? data).map fun content => content.bytes session.store

/-- How a call ends that is given the object of a name, but that object is no buffer. -/
def withoutBytes (session : Session) (data : Data) (fault : String → Fault) : Outcome :=
  let named (name : Text) (fault : String → Fault) : Outcome :=
    (session.object? name).elim .noObject fun object => .failed (fault object.kindName)
  match data with
  | .own _ => .done
  | .shared name => named name fault
  | .view name => named name .noBytes

/-- Whether a call is given a view. -/
def Data.isView : Data → Bool
  | view _ => true
  | _ => false

/-- The settings of the session, loaded if there are none. -/
def askSettings (session : Session) (path : Option Path) : Session × Report Settings :=
  let (settings, report) :=
    session.settings.get session.store.directory session.environment path
  ({ session with settings }, report)

/-- The policy of a new sink: the one that is given, or the one of the settings. -/
def choosePolicy (session : Session) (given : Option Value) : Session × Report SurrogatePolicy :=
  match given with
  | some policy => (session, { result := SurrogatePolicy.ofValue policy })
  | none =>
    let (session, report) := session.askSettings none
    (session,
      { result := report.result.bind fun settings =>
          SurrogatePolicy.ofValue settings.surrogatePolicy
        notices := report.notices })

def streamName (given own : Option Text) : Text :=
  match given with
  | some (first :: rest) => first :: rest
  | _ => own.getD (Text.ofString "<writer>")

/-- The destination of a new sink. There is none if its buffer is not there. -/
def destination? (session : Session) : Target → Option (Except Fault Destination)
  | .memory => some (.ok (.memory {}))
  | .counter => some (.ok (.counter 0))
  | .region name offset length =>
    (session.object? name).map fun object =>
      match object, offset, length with
      | .buffer id, some offset, length =>
        (Region.ofBuffer id (session.store.buffer id).bytes.length offset length).map .region
      | .buffer _, none, none => .error (.noOperation "-" .int .none)
      | _, none, some _ => .error (.notComparable "<" .none .int)
      | other, _, _ => .error (.noLength other.kindName)
  | .stream given own writer =>
    some (.ok (.stream { name := streamName given own, device := .writer writer }))
  | .recorder recorder => some (.ok (.recorder recorder))

def newSink (session : Session) (name : Text) (policy : Option Value) (target : Target) : Answer :=
  let session := session.drop name
  match session.destination? target with
  | none => session.noObject
  | some built =>
    let (session, report) := session.choosePolicy policy
    match report.result, built with
    | .error fault, _ => ⟨session, .failed fault, report.notices⟩
    | .ok _, .error fault => ⟨session, .failed fault, report.notices⟩
    | .ok policy, .ok destination =>
      ⟨session.setObject name (.sink { policy, destination }), .policy policy, report.notices⟩

def newMemorySource (session : Session) (name : Text) (data : Data) (offset : Option Int) :
    Answer :=
  let session := session.drop name
  match session.content? data, offset with
  | none, _ => ⟨session, session.withoutBytes data .noBytes, []⟩
  | some _, none => session.failed (.notComparable "<=" .int .none)
  | some content, some offset =>
    match Source.ofContent session.store content offset with
    | .error fault => session.failed fault
    | .ok source => ⟨session.setSource name source, .done, []⟩

def newStreamSource (session : Session) (name : Text) (data : Data) (reader : Reader) : Answer :=
  let session := session.drop name
  match session.content? data with
  | none => session.noObject
  | some content =>
    let reader := { reader with data := content, isView := data.isView }
    ⟨session.setSource name (.stream (.reader reader)), .done, []⟩

def write (session : Session) (name : Text) (request : Request) : Answer :=
  match session.object? name with
  | some (.sink sink) =>
    let attempt := sink.write session.store request
    let (store, sink) := attempt.state
    ⟨{ session with store }.setObject name (.sink sink), outcomeOf attempt.fault, attempt.notices⟩
  | _ => session.lacking name request.method

/-- Writes a range of bytes; a shared buffer is viewed while its bytes are written. -/
def writeBytes (session : Session) (name : Text) (data : Data) (offset : Int)
    (length : Option Int) : Answer :=
  match session.content? data with
  | none => session.refused name "write_bytes" (session.withoutBytes data .noLength)
  | some (.own bytes) => session.write name (.bytes bytes offset length)
  | some (.shared id) =>
    let bytes := (session.store.buffer id).bytes
    let answer :=
      { session with store := session.store.pin id }.write name (.bytes bytes offset length)
    { answer with session := { answer.session with store := answer.session.store.unpin id } }

def copyFrom (session : Session) (name : Text) (sink : Sink) (source : Text) (origin : Source)
    (count : Int) : Answer :=
  let attempt := (Transfer.mk session.store sink origin).copy count
  let moved := attempt.state
  let session := { session with store := moved.store }
  ⟨(session.setObject name (.sink moved.sink)).setObject source (.source moved.source),
    outcomeOf attempt.fault, attempt.notices⟩

/--
Copies bytes from an object that is no source. This is found out at the first block; a copy of no
bytes has none.
-/
def copyFromOther (session : Session) (name : Text) (sink : Sink) (other : Object) (count : Int) :
    Answer :=
  let attempt := (Transfer.mk session.store sink (.memory (.own []) 0)).copy (min count 0)
  let after := session.setObject name (.sink attempt.state.sink)
  if 0 < count then after.failed (.noAttribute other.kindName (Text.ofString "read_bytes"))
  else ⟨after, outcomeOf attempt.fault, attempt.notices⟩

/-- Copies bytes from the object of a name to a sink. -/
def copy (session : Session) (name source : Text) (count : Int) : Answer :=
  match session.object? name, session.object? source with
  | some (.sink sink), some (.source origin) => session.copyFrom name sink source origin count
  | some (.sink sink), some other => session.copyFromOther name sink other count
  | some (.sink _), none => session.noObject
  | _, _ => session.lacking name "copy_bytes"

/-- Moves the cursor of a sink. That of a memory can be moved to its start only. -/
def reset (session : Session) (name : Text) (offset : Option (Option Int)) : Answer :=
  match session.object? name with
  | some (.sink sink) =>
    let moved (destination : Destination) : Answer :=
      ⟨session.setObject name (.sink { sink with destination }), .done, []⟩
    match sink.destination, offset with
    | .memory memory, none => moved (.memory memory.reset)
    | .memory _, some _ => session.failed (.argumentsNotTaken "MemorySink.reset()" 1)
    | .region region, offset =>
      match region.reset offset.join with
      | .ok changed => moved (.region changed)
      | .error fault => session.failed fault
    | _, _ => session.lacking name "reset"
  | _ => session.lacking name "reset"

/-- Makes a call of a method on the stream of a name. -/
def onStream (session : Session) (name : Text) (method : String)
    (call : Stream → Store → Attempt (Store × Stream)) : Answer :=
  match session.object? name with
  | some (.sink sink) =>
    match sink.destination with
    | .stream stream =>
      let attempt := call stream session.store
      let (store, stream) := attempt.state
      ⟨{ session with store }.setObject name (.sink { sink with destination := .stream stream }),
        outcomeOf attempt.fault, attempt.notices⟩
    | _ => session.lacking name method
  | _ => session.lacking name method

def readByte (session : Session) (name : Text) : Answer :=
  match session.object? name with
  | some (.source (.memory content position)) =>
    match Source.readByte session.store content position with
    | .ok (byte, source) => ⟨session.setObject name (.source source), .byte byte, []⟩
    | .error fault => session.failed fault
  | _ => session.lacking name "read_byte"

/-- Why bytes of a source cannot be read into an object that is no buffer. -/
def readFault (session : Session) (source : Source) (other : Object) (length : Int) : Fault :=
  match source with
  | .memory content position =>
    let left := Source.remaining session.store content position
    if length > left then .tooFewLeft length left else .itemsFixed other.kindName
  | .stream _ => .noBytes other.kindName

/-- Reads bytes of the source of a name into the buffer of a name. -/
def readBytes (session : Session) (name buffer : Text) (offset length : Int) : Answer :=
  match session.object? name, session.object? buffer with
  | some (.source source), some (.buffer id) =>
    let attempt :=
      source.readInto session.store (some id) (session.store.buffer id) offset length
    let (source, changed) := attempt.state
    ⟨{ session with store := session.store.setBuffer id changed }.setObject name (.source source),
      outcomeOf attempt.fault, attempt.notices⟩
  | some (.source source), some other => session.failed (session.readFault source other length)
  | some (.source _), none => session.noObject
  | _, _ => session.lacking name "read_bytes"

/-- Settings as the result of a call. -/
def answerSettings (session : Session) (report : Report Settings) : Answer :=
  match report.result with
  | .ok settings => ⟨session, .settings settings, report.notices⟩
  | .error fault => ⟨session, .failed fault, report.notices⟩

/-- Changes one of the settings of the session. -/
def assignSetting (session : Session) (field : Settings.Field) (value : Value) : Answer :=
  let (session, report) := session.askSettings none
  match report.result with
  | .error fault => ⟨session, .failed fault, report.notices⟩
  | .ok settings =>
    let settings := settings.set field value
    ⟨{ session with settings := some settings }, .settings settings, report.notices⟩

/-- Writes a file and makes the folders above it, which stay if the file cannot be written. -/
def writeFile (session : Session) (path : Path) (content : Bytes) : Answer :=
  let kept (directory : Directory) : Session :=
    { session with store := { session.store with directory } }
  match session.store.directory.makeFolders path.parent with
  | (made, some fault) => (kept made).failed fault
  | (made, none) =>
    match made.openTruncate path with
    | .error fault => (kept made).failed fault
    | .ok (location, opened) => ⟨kept (opened.put location (.file content)), .done, []⟩

def step (session : Session) : Step → Answer
  | .newBuffer name data =>
    let session := session.drop name
    match session.bytes? data with
    | none => ⟨session, session.withoutBytes data .noBytes, []⟩
    | some bytes =>
      let (store, id) := session.store.addBuffer bytes
      ⟨{ session with store }.setObject name (.buffer id), .done, []⟩
  | .newSink name policy target => session.newSink name policy target
  | .newMemorySource name data offset => session.newMemorySource name data offset
  | .newStreamSource name data reader => session.newStreamSource name data reader
  | .write name request => session.write name request
  | .writeBytes name data offset length => session.writeBytes name data offset length
  | .copy name source count => session.copy name source count
  | .reset name offset => session.reset name offset
  | .flush name => session.onStream name "flush" Stream.flush
  | .close name => session.onStream name "close" Stream.close
  | .enter name =>
    let answer := session.onStream name "__enter__" fun stream store => { state := (store, stream) }
    match answer.outcome with
    | .done => { answer with outcome := .truth true }
    | _ => answer
  | .leave name => session.onStream name "__exit__" Stream.close
  | .readByte name => session.readByte name
  | .readBytes name buffer offset length => session.readBytes name buffer offset length
  | .setVariable name value =>
    match session.environment.assign name value with
    | .error fault => session.failed fault
    | .ok environment => ⟨{ session with environment }, .done, []⟩
  | .writeFile path content => session.writeFile path content
  | .resetSettings => ⟨{ session with settings := none }, .done, []⟩
  | .getSettings path =>
    let (session, report) := session.askSettings path
    session.answerSettings report
  | .loadSettings path =>
    session.answerSettings (Settings.load session.store.directory session.environment path)
  | .makeSettings entries => session.answerSettings { result := Settings.ofEntries entries }
  | .assignSetting field value => session.assignSetting field value

end Session

end IndexWire
