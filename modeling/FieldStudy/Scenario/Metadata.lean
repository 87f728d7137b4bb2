import FieldStudy.Json.Printer
import FieldStudy.Scenario.Config
import FieldStudy.Scenario.Definition
import FieldStudy.Scenario.Error
import FieldStudy.Storage.FileStore
import FieldStudy.Text.Timestamp
import FieldStudy.Text.Utf8

/-!
# Metadata of a run

The document that a run keeps about itself and stores beside its recordings.
-/

namespace FieldStudy

structure RecordInfo where
  filename : String
  created : Int
deriving DecidableEq, Repr

structure RecordEvent where
  event : String
  record : String
  timestamp : Int
deriving DecidableEq, Repr

structure Annotation where
  timestamp : Int
  record : String
  label : String
deriving DecidableEq, Repr

structure Metadata where
  version : Nat
  startDate : Option String := none
  endDate : Option String := none
  startTime : Option Int := none
  endTime : Option Int := none
  scenarioId : Int
  collectionId : Int
  profileId : Int
  system : SystemInfo
  app : AppInfo
  deviceInfo : Dict Json := []
  /-- The configuration of each role. -/
  deviceConfig : Dict Json := []
  records : Dict RecordInfo := []
  recordEvents : List RecordEvent := []
  annotations : List Annotation := []
  extra : Dict Json := []
  abort : Option AbortInfo := none
deriving BEq

namespace RecordInfo

def decoder : Decoder RecordInfo := fun s => do
  let m ← Decoder.members? ["filename", "create_timestamp"] s
  return ⟨← m.required "filename" Decoder.string,
    ← m.required "create_timestamp" Decoder.int64⟩

def toJson (i : RecordInfo) : Json :=
  .obj [("filename", .str i.filename), ("create_timestamp", .int i.created)]

end RecordInfo

namespace RecordEvent

def decoder : Decoder RecordEvent := fun s => do
  let m ← Decoder.members? ["event", "record_name", "timestamp"] s
  return ⟨← m.required "event" Decoder.string, ← m.required "record_name" Decoder.string,
    ← m.required "timestamp" Decoder.int64⟩

def toJson (e : RecordEvent) : Json :=
  .obj [("event", .str e.event), ("record_name", .str e.record), ("timestamp", .int e.timestamp)]

end RecordEvent

namespace Annotation

def decoder : Decoder Annotation := fun s => do
  let m ← Decoder.members? ["timestamp", "record_name", "label"] s
  return ⟨← m.required "timestamp" Decoder.int64, ← m.required "record_name" Decoder.string,
    ← m.required "label" Decoder.string⟩

def toJson (a : Annotation) : Json :=
  .obj [("timestamp", .int a.timestamp), ("record_name", .str a.record), ("label", .str a.label)]

end Annotation

namespace Metadata

/-- The document of a run that has not begun. -/
def initial (d : Definition) (p : Profile) (c : Config) : Metadata :=
  { version := c.metadataVersion, scenarioId := d.scenarioId, collectionId := d.collectionId,
    profileId := p.id, system := c.system, app := c.app }

def markStart (m : Metadata) (ms : Int) : Metadata :=
  { m with startTime := some ms, startDate := some (Timestamp.text ms) }

def markEnd (m : Metadata) (ms : Int) : Metadata :=
  { m with endTime := some ms, endDate := some (Timestamp.text ms) }

def addRecordEvent (m : Metadata) (event record : String) (ms : Int) : Metadata :=
  { m with recordEvents := m.recordEvents ++ [⟨event, record, ms⟩] }

def annotate (m : Metadata) (a : Annotation) : Metadata :=
  { m with annotations := m.annotations ++ [a] }

/-- The configuration of a role; a role without one, or with a value that is no object, has none. -/
def roleConfig (m : Metadata) (role : String) : Dict Json :=
  ((m.deviceConfig.get? role).bind Json.members?).getD []

/-- Merges settings into the configuration of a role. -/
def mergeRoleConfig (m : Metadata) (role : String) (values : Dict Json) : Metadata :=
  { m with
    deviceConfig := m.deviceConfig.insert role (.obj (mergeConfig (m.roleConfig role) values)) }

def fieldNames : List String :=
  ["version", "acquisition_start_datetime", "acquisition_end_datetime",
    "acquisition_start_timestamp", "acquisition_end_timestamp", "scenario_id",
    "data_collection_id", "profile_id", "system_info", "app_info", "sensor_device_info",
    "sensor_device_config", "record_info", "record_events", "annotations", "extra_metadata",
    "abort"]

def decoder : Decoder Metadata := fun s => do
  let m ← Decoder.members? fieldNames s
  return {
    version := ← m.required "version" (Decoder.natural 32)
    startDate := ← m.defaultNone "acquisition_start_datetime" Decoder.string
    endDate := ← m.defaultNone "acquisition_end_datetime" Decoder.string
    startTime := ← m.defaultNone "acquisition_start_timestamp" Decoder.int64
    endTime := ← m.defaultNone "acquisition_end_timestamp" Decoder.int64
    scenarioId := ← m.required "scenario_id" Decoder.int64
    collectionId := ← m.required "data_collection_id" Decoder.int64
    profileId := ← m.required "profile_id" Decoder.int64
    system := ← m.required "system_info" SystemInfo.decoder
    app := ← m.required "app_info" AppInfo.decoder
    deviceInfo := ← m.withDefault "sensor_device_info" [] Decoder.object
    deviceConfig := ← m.withDefault "sensor_device_config" [] Decoder.object
    records := ← m.withDefault "record_info" [] (Decoder.dict RecordInfo.decoder)
    recordEvents := ← m.withDefault "record_events" [] (Decoder.list RecordEvent.decoder)
    annotations := ← m.withDefault "annotations" [] (Decoder.list Annotation.decoder)
    extra := ← m.withDefault "extra_metadata" [] Decoder.object
    abort := ← m.optional "abort" AbortInfo.decoder }

def toJson (m : Metadata) : Json :=
  .obj ([("version", .int m.version)] ++
    Json.optionalMember "acquisition_start_datetime" .str m.startDate ++
    Json.optionalMember "acquisition_end_datetime" .str m.endDate ++
    Json.optionalMember "acquisition_start_timestamp" .int m.startTime ++
    Json.optionalMember "acquisition_end_timestamp" .int m.endTime ++
    [("scenario_id", .int m.scenarioId), ("data_collection_id", .int m.collectionId),
      ("profile_id", .int m.profileId), ("system_info", m.system.toJson),
      ("app_info", m.app.toJson), ("sensor_device_info", .obj m.deviceInfo),
      ("sensor_device_config", .obj m.deviceConfig),
      ("record_info", Json.ofDict RecordInfo.toJson m.records),
      ("record_events", Json.ofList RecordEvent.toJson m.recordEvents),
      ("annotations", Json.ofList Annotation.toJson m.annotations),
      ("extra_metadata", .obj m.extra), ("abort", Json.ofOption AbortInfo.toJson m.abort)])

/-! ## Storage -/

/-- The file of the metadata within the folder of a run. -/
def file : String := "metadata.json"

def text (m : Metadata) : String := m.toJson.pretty

/-- Stores the document in a folder. -/
def save (m : Metadata) (folder : Path) (s : FileStore) : Except IoError FileStore :=
  s.write folder file (Utf8.encode m.text.toList)

def ofText (text : String) : Except ScenarioError Metadata := decodeText decoder text

/-- The document stored in a folder. -/
def load (folder : Path) (s : FileStore) : Except ScenarioError Metadata :=
  match s.read? (folder ++ [file]) with
  | none => .error (.io .notFound)
  | some bytes =>
    match Utf8.decode bytes with
    | .ok cs => ofText (String.ofList cs)
    | .error _ => .error (.serialization "the text is not as expected")

end Metadata

namespace Definition

/-- The file of the snapshot within the folder of a run. -/
def snapshotFile : String := "scenario.json"

/-- Stores the snapshot in a folder. -/
def saveSnapshot (d : Definition) (folder : Path) (s : FileStore) : Except IoError FileStore :=
  s.write folder snapshotFile (Utf8.encode d.snapshot.pretty.toList)

end Definition

end FieldStudy
