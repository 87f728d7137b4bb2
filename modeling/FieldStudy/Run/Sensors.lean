import FieldStudy.Run.Roles

/-!
# Sensors

Starting and stopping the sensors of the bound phones. Each function works through pairs of a role and a type
of sensor and ends early where a sensor cannot be started or stopped.
-/

namespace FieldStudy.Run

/-- The pairs of role and sensor that an action is for. Only phones have sensors that can be driven. -/
def sensorTargets (r : Run) (a : SensorArguments) : List (RoleBinding × String) :=
  ((r.targets a.roles).filter (·.device.type == .mobilePhone)).flatMap fun b =>
    (a.sensors.getD []).map fun sensor => (b, sensor)

/-- Takes a step for each pair until one ends the action; if none does, the code is 0. -/
def forEachSensor (step : Run → RoleBinding → String → Option Outcome × Run) :
    List (RoleBinding × String) → Run → Outcome × Run
  | [], r => (.done 0, r)
  | (b, sensor) :: rest, r =>
    match step r b sensor with
    | (none, r) => forEachSensor step rest r
    | (some o, r) => (o, r)

/-! ## Starting -/

/-- The interval set for a sensor, or else the one for all. -/
def reportInterval (s : Setup) (config : Dict Json) : Nat :=
  ((config.get? "report_interval").bind Json.nat?).getD s.config.reportIntervalMs

def startMotion (s : Setup) (r : Run) (b : RoleBinding) (sensor : String) : Option Outcome × Run :=
  if r.listening.contains (b.role, sensor) then (none, r)
  else
    let config := b.sensorConfig sensor
    match r.ask s (.startListening b sensor (reportInterval s config) config) with
    | (.error e, r) => (some (.fails e), r)
    | (.ok false, r) => (some (.done 1), r)
    | (.ok true, r) => (none, { r with listening := (b.role, sensor) :: r.listening })

/-- The file set for a microphone, or else one named for the role. -/
def recordingFile (b : RoleBinding) : String :=
  (((b.sensorConfig SensorType.mic).get? "filename").bind Json.str?).getD (b.role ++ ".wav")

def startMic (s : Setup) (r : Run) (b : RoleBinding) : Option Outcome × Run :=
  if !s.backend.canRecord r.calls then (some (.done 1), r)
  else if r.recording.contains b.role then
    let message := "microphone already recording on '" ++ b.role ++ "'"
    (some (.fails (.capability message)), r)
  else
    let call := .startRecording b (recordingFile b) s.config.micSampleRate s.config.micChannels
    match r.ask s call with
    | (.error e, r) => (some (.fails e), r)
    | (.ok _, r) =>
      (none, { r with recording := b.role :: r.recording }.emit (.micRecording true))

/-- Starts a sensor; types that are not known are passed over. -/
def startSensor (s : Setup) (r : Run) (b : RoleBinding) (sensor : String) : Option Outcome × Run :=
  if SensorType.isMotion sensor then startMotion s r b sensor
  else if sensor = SensorType.mic then startMic s r b
  else (none, r)

def startSensors (r : Run) (s : Setup) (a : SensorArguments) : Outcome × Run :=
  forEachSensor (startSensor s) (r.sensorTargets a) r

/-! ## Stopping -/

def stopMotion (s : Setup) (r : Run) (b : RoleBinding) (sensor : String) : Option Outcome × Run :=
  if !r.listening.contains (b.role, sensor) then (none, r)
  else match r.ask s (.stopListening b sensor) with
    | (.error e, r) => (some (.fails e), r)
    | (.ok false, r) => (some (.done 1), r)
    | (.ok true, r) => (none, { r with listening := r.listening.filter (· != (b.role, sensor)) })

/-- Stops a microphone. It counts as stopped even if the backend fails. -/
def stopMic (s : Setup) (r : Run) (b : RoleBinding) : Option Outcome × Run :=
  if !r.recording.contains b.role then (none, r)
  else
    let r := { r with recording := r.recording.filter (· != b.role) }
    match r.ask s (.stopRecording b) with
    | (.error e, r) => (some (.fails e), r)
    | (.ok _, r) => (none, r.emit (.micRecording false))

def stopSensor (s : Setup) (r : Run) (b : RoleBinding) (sensor : String) : Option Outcome × Run :=
  if SensorType.isMotion sensor then stopMotion s r b sensor
  else if sensor = SensorType.mic then stopMic s r b
  else (none, r)

def stopSensors (r : Run) (s : Setup) (a : SensorArguments) : Outcome × Run :=
  forEachSensor (stopSensor s) (r.sensorTargets a) r

/-! ## The end of a run -/

/-- What still listens on a role that is bound, in the order in which it is stopped. -/
def drainedListeners (r : Run) (s : Setup) : List (RoleBinding × String) :=
  ((s.drains.listeners r.token).order r.listening).filterMap fun (role, sensor) =>
    (r.roles.get? role).map (·, sensor)

/-- The phones that still record, likewise. -/
def drainedMics (r : Run) (s : Setup) : List RoleBinding :=
  ((s.drains.mics r.token).order r.recording).filterMap r.roles.get?

/-- Stops everything that runs on a role that is still bound. What the backend replies makes no difference. -/
def releaseSensors (r : Run) (s : Setup) : Run :=
  let listeners := r.drainedListeners s
  let mics := r.drainedMics s
  let r := { r with listening := [], recording := [] }
  let r := listeners.foldl (fun r (b, sensor) => (r.ask s (.stopListening b sensor)).2) r
  mics.foldl (fun r b => (r.ask s (.stopRecording b)).2.emit (.micRecording false)) r

end FieldStudy.Run
