import FieldStudy.Json.Decoder
import FieldStudy.Recording.Error

/-!
# Failures and ends of runs
-/

namespace FieldStudy

/-- Why a scenario was aborted. -/
structure AbortInfo where
  reason : String
  message : Option String := none
deriving DecidableEq, Repr

namespace AbortInfo

def decoder : Decoder AbortInfo := fun s => do
  let m ← Decoder.members? ["reason", "message"] s
  return ⟨← m.required "reason" Decoder.string, ← m.defaultNone "message" Decoder.string⟩

def toJson (i : AbortInfo) : Json :=
  .obj [("reason", .str i.reason), ("message", Json.ofOption .str i.message)]

end AbortInfo

/-- What can go wrong with a scenario. -/
inductive ScenarioError
  /-- The scenario refers to what does not exist. -/
  | definition (message : String)
  /-- The arguments of a node do not suit its primitive. -/
  | invalidArguments (primitive details : String)
  /-- A sensor or a permission is missing. -/
  | capability (message : String)
  | io (e : IoError)
  | recording (e : RecordingError)
  /-- A JSON text or value cannot be decoded. -/
  | serialization (details : String)
  /-- The host rejected a prompt. -/
  | prompt (reason : String)
  | aborted (info : AbortInfo)
  /-- The run was paused or stopped during a wait. -/
  | cancelled
deriving DecidableEq, Repr

def ScenarioError.message : ScenarioError → String
  | .definition message => "Scenario definition error: " ++ message
  | .invalidArguments primitive details =>
    "Invalid arguments for '" ++ primitive ++ "': " ++ details
  | .capability message => "Capability unavailable: " ++ message
  | .io e => "I/O error: " ++ e.message
  | .recording e => "Sensor log error: " ++ e.message
  | .serialization details => "Serialization error: " ++ details
  | .prompt reason => "Prompt rejected: " ++ reason
  | .aborted info => "Scenario aborted: " ++ info.reason
  | .cancelled => "Scenario cancelled"

/-- How a run ended. -/
inductive StopReason
  | completed
  | aborted (info : AbortInfo)
  | failed (message : String)
deriving DecidableEq, Repr

namespace StopReason

/-- The data of a run is kept unless it failed. -/
def keepsData : StopReason → Bool
  | .failed _ => false
  | _ => true

/-- The end that an error brings about, or that comes without one. -/
def ofError : Option ScenarioError → StopReason
  | none | some .cancelled => .completed
  | some (.aborted info) => .aborted info
  | some e => .failed e.message

def toJson (r : StopReason) : Json :=
  .obj (("keep", .bool r.keepsData) :: match r with
    | .completed => [("kind", .str "completed")]
    | .aborted info => [("kind", .str "aborted"), ("reason", .str info.reason),
        ("message", Json.ofOption .str info.message)]
    | .failed message => [("kind", .str "failed"), ("message", .str message)])

end StopReason

/-- Decodes a JSON text. -/
def decodeText (d : Decoder α) (text : String) : Except ScenarioError α :=
  match (Source.read? text).bind d with
  | some a => .ok a
  | none => .error (.serialization "the text is not as expected")

/-- Decodes a JSON value. -/
def decodeValue? (d : Decoder α) (value : Json) : Option α := d (Source.ofJson value)

end FieldStudy
