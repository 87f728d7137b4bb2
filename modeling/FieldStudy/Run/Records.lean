import FieldStudy.Run.Roles

/-!
# Records

A record is a file of samples. The samples of a type of sensor go to the open records that list it.
-/

namespace FieldStudy.Run

/-! ## Metadata of records -/

def addRecordInfo (r : Run) (name file : String) : Run :=
  r.updateMetadata fun m => { m with records := m.records.insert name ⟨file, r.now⟩ }

def addRecordEvent (r : Run) (event name : String) : Run :=
  r.updateMetadata (·.addRecordEvent event name r.now)

def annotate (r : Run) (name : String) (label : Option String) : Run :=
  r.updateMetadata (·.annotate ⟨r.now, name, label.getD ""⟩)

/-! ## Routes -/

/-- Adds a record behind those that take the samples of a sensor, unless it is among them. -/
def addRoute (routes : Dict (List String)) (sensor name : String) : Dict (List String) :=
  let names := (routes.get? sensor).getD []
  routes.insert sensor (if names.contains name then names else names ++ [name])

def addRoutes (routes : Dict (List String)) (sensors : List String) (name : String) :
    Dict (List String) :=
  sensors.foldl (addRoute · · name) routes

/-- Takes a record out of every route. -/
def removeRoutes (routes : Dict (List String)) (name : String) : Dict (List String) :=
  routes.mapValues (·.filter (· != name))

/-! ## Opening and closing -/

/-- The extension of records of samples. -/
def recordExtension : String := "bin"

/-- The extension of recordings of a microphone. -/
def micExtension : String := "wav"

/-- What every record of samples can hold. -/
def recordDescriptor : Descriptor := Phone.descriptor true true

/-- Opens the file of a record and routes the sensors to it. A record that is open is left as it is. -/
def openRecord (r : Run) (s : Setup) (a : RecordArguments) (sensors : List String) :
    Except ScenarioError Unit × Run :=
  if r.writers.contains a.name then (.ok (), r)
  else
    let logger := FileLogger.new s.folder a.name recordExtension s.config.loggerBufferCount
    match RecordWriter.create logger recordDescriptor r.files with
    | (.error e, writer, files) =>
      (.error (.recording e), { r with files := (writer.sink.close files).2.2 })
    | (.ok (), writer, files) =>
      (.ok (), { r with
        files
        writers := r.writers.insert a.name (writer.setPaused a.paused)
        routes := addRoutes r.routes sensors a.name })

/-- Creates a record for its first sensor: a microphone is told the name of its file, any other sensor has one
opened. Without sensors there is nothing to create. -/
def createRecord (r : Run) (s : Setup) (a : RecordArguments) : Except ScenarioError Unit × Run :=
  match a.sensors.getD [] with
  | [] => (.ok (), r)
  | first :: others =>
    if first = SensorType.mic then
      let file := fileName a.name micExtension
      let r := r.mergeRoles a.roles [(SensorType.mic, .obj [("filename", .str file)])]
      (.ok (), r.addRecordInfo a.name file)
    else match r.openRecord s a (first :: others) with
      | (.ok (), r) => (.ok (), r.addRecordInfo a.name (fileName a.name recordExtension))
      | failed => failed

/-- Closes a record if it is open. -/
def closeRecord (r : Run) (name : String) : Except ScenarioError Unit × Run :=
  let writer? := r.writers.get? name
  let r := { r with routes := removeRoutes r.routes name, writers := r.writers.erase name }
  match writer? with
  | none => (.ok (), r)
  | some writer =>
    let (result, _, files) := writer.close r.files
    (result.mapError .recording, { r with files })

def pauseRecord (r : Run) (name : String) (paused : Bool) : Run :=
  { r with writers := r.writers.adjust name (·.setPaused paused) }

/-- The change that an operation makes to a record. -/
def changeRecord (r : Run) (s : Setup) (op : RecordOp) (a : RecordArguments) :
    Except ScenarioError Unit × Run :=
  match op with
  | .create => r.createRecord s a
  | .close => r.closeRecord a.name
  | .pause => (.ok (), r.pauseRecord a.name true)
  | .unpause => (.ok (), r.pauseRecord a.name false)
  | .annotate => (.ok (), r.annotate a.name a.label)

/-- The name of an operation among the events of a record; annotations are kept apart from those. -/
def recordEvent? : RecordOp → Option String
  | .create => some "create"
  | .close => some "close"
  | .pause => some "pause"
  | .unpause => some "unpause"
  | .annotate => none

/-- Takes an operation on a record and notes it in the metadata. -/
def record (r : Run) (s : Setup) (op : RecordOp) (a : RecordArguments) : Outcome × Run :=
  match r.changeRecord s op a with
  | (.error e, r) => (.fails e, r)
  | (.ok (), r) =>
    let r := match recordEvent? op with
      | some event => r.addRecordEvent event a.name
      | none => r
    r.savedWith s 0

/-! ## Samples -/

/-- Writes a frame to a record if it is open. A failure makes no difference to the caller. -/
def writeSample (r : Run) (frame : UInt8) (timestamp : Scalar) (values : List Scalar)
    (name : String) : Run :=
  match r.writers.get? name with
  | none => r
  | some writer =>
    let (_, writer, files) := writer.write frame timestamp values r.files
    { r with files, writers := r.writers.insert name writer }

/-- Takes a sample of a sensor of a role: each record on the route of the sensor gets a frame. Samples of a paused
role are dropped, and so are those of sensors without frames. -/
def sample (r : Run) (role sensor : String) (timestamp : UInt64) (values : List Single) : Run :=
  match SensorType.frameId? sensor with
  | none => r
  | some frame =>
    if (r.roles.get? role).any (·.isPaused) then r
    else ((r.routes.get? sensor).getD []).foldl
      (fun r name =>
        r.writeSample frame (.uint timestamp) (values.map fun v => .float v.toDouble) name) r

/-! ## Notes -/

/-- The file of the log, without its extension. -/
def logName : String := "acquisition"

def logExtension : String := "log"

/-- Adds a note to the log, which is made on first use. -/
def logInfo (r : Run) (s : Setup) (message : String) : Outcome × Run :=
  let logger := r.log.getD
    (FileLogger.new s.folder logName logExtension s.config.loggerBufferCount)
  let (result, logger, files) := logger.writeLine message r.files
  let r := { r with files, log := some logger }
  match result with
  | .ok () => (.done 0, r)
  | .error e => (.fails (.io e), r)

/-! ## The end of a run -/

/-- Closes every open record and the log. A failure makes no difference. -/
def releaseFiles (r : Run) : Run :=
  let files := r.writers.foldl (fun files (_, writer) => (writer.close files).2.2) r.files
  let files := match r.log with
    | some logger => (logger.close files).2.2
    | none => files
  { r with files, writers := [], log := none }

end FieldStudy.Run
