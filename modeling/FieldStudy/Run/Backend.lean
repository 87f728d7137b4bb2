import FieldStudy.Device.Basic
import FieldStudy.Scenario.Error

/-!
# Sensor backends

The part of the host that drives sensors. What it replies may depend on all calls made before.
-/

namespace FieldStudy

/-- A call that starts or stops a sensor of a device. -/
inductive BackendCall
  | startListening (target : RoleBinding) (sensor : String) (intervalMs : Nat) (config : Dict Json)
  | stopListening (target : RoleBinding) (sensor : String)
  /-- The file is named relative to the folder of the run. -/
  | startRecording (target : RoleBinding) (file : String) (sampleRate channels : Nat)
  | stopRecording (target : RoleBinding)
deriving BEq

structure Backend where
  /-- Whether the call took effect. A recording starts or stops unless there is an error. -/
  reply : List BackendCall → BackendCall → Except ScenarioError Bool
  /-- Whether microphones can be recorded. -/
  canRecord : List BackendCall → Bool
  /-- The description of a device that the metadata keep. -/
  deviceInfo : List BackendCall → Device → Except ScenarioError Json

namespace Backend

/-- A device as its own description. -/
def describe (d : Device) : Json := d.toJson.canonical

/-- A backend without sensors. -/
def none : Backend where
  reply _ call :=
    match call with
    | .startListening .. => .ok false
    | .startRecording .. => .error (.capability "microphone recording")
    | .stopListening .. | .stopRecording _ => .ok true
  canRecord _ := false
  deviceInfo _ d := .ok (describe d)

end Backend

end FieldStudy
