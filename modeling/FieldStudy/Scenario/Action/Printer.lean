import FieldStudy.Scenario.Action

/-!
# Actions as JSON values

A host that shows or logs a node gets its action as an object: the kind, and the arguments with every default
filled in.
-/

namespace FieldStudy

namespace EventOp

def text : EventOp → String
  | .create => "Create"
  | .reset => "Reset"
  | .set => "Set"
  | .wait => "Wait"
  | .waitAll => "WaitAll"

end EventOp

namespace CounterOp

def text : CounterOp → String
  | .set => "Set"
  | .inc => "Inc"
  | .dec => "Dec"
  | .equ => "Equ"
  | .cmp => "Cmp"

end CounterOp

namespace RecordOp

def text : RecordOp → String
  | .create => "Create"
  | .close => "Close"
  | .pause => "Pause"
  | .unpause => "Unpause"
  | .annotate => "Annotate"

end RecordOp

namespace Action

def textJson (x : Option String) : Json := Json.ofOption .str x

def secondsJson (x : Option Double) : Json := Json.ofOption .float x

def namesJson (xs : Option (List String)) : Json := Json.ofOption (Json.ofList .str) xs

/-- The name of an action in its printed form. -/
def kind : Action → String
  | .nop => "nop"
  | .fork _ => "fork"
  | .join _ => "join"
  | .abort _ => "abort"
  | .waitDelay _ => "wait_delay"
  | .waitNext => "wait_next"
  | .waitOption _ => "wait_option"
  | .screenSleep _ => "screen_sleep"
  | .display _ _ => "display"
  | .progress _ => "progress"
  | .event _ _ => "event"
  | .counter _ _ => "counter"
  | .metadataSet _ _ => "metadata_set"
  | .logInfo _ => "log_info"
  | .record _ _ => "record"
  | .select _ => "select"
  | .setConfig _ _ => "set_config"
  | .dumpConfig _ _ => "dump_config"
  | .pauseSensor _ _ => "sensor_pause"
  | .startSensor _ => "start"
  | .stopSensor _ => "stop"
  | .deviceRecord _ => "device_record"

/-- The arguments of an action by name. -/
def arguments : Action → List (String × Json)
  | .nop | .waitNext => []
  | .fork branch => [("branch_name", .str branch)]
  | .join a =>
    [("subbranch", textJson a.subbranch), ("branch_name", textJson a.branch),
      ("target", textJson a.target?)]
  | .abort info => [("reason", .str info.reason), ("message", textJson info.message)]
  | .waitDelay seconds => [("delay", .float seconds)]
  | .waitOption a =>
    [("title", textJson a.title), ("msg", textJson a.msg), ("options", Json.ofList .str a.options)]
  | .screenSleep enable => [("enable", .bool enable)]
  | .display primitive a =>
    [("primitive", .str primitive.text), ("title", textJson a.title), ("msg", textJson a.msg),
      ("text", textJson a.text), ("section", textJson a.group),
      ("countdown", secondsJson a.countdown), ("pause", secondsJson a.pause),
      ("delay", secondsJson a.delay), ("wait_next", .bool a.waitNext)]
  | .progress a =>
    [("text", textJson a.text), ("value", .float a.value), ("count", .float a.count)]
  | .event op a =>
    [("op", .str op.text), ("names", Json.ofList .str a.names), ("timeout", secondsJson a.timeout)]
  | .counter op a =>
    [("op", .str op.text), ("name", .str a.name), ("value", Json.ofOption .int a.value)]
  | .metadataSet key value => [("key", .str key), ("value", value)]
  | .logInfo message => [("message", .str message)]
  | .record op a =>
    [("op", .str op.text), ("name", .str a.name), ("label", textJson a.label),
      ("sensors", namesJson a.sensors), ("devices", namesJson a.roles), ("paused", .bool a.paused)]
  | .select a =>
    [("sensor_device_type", Json.ofOption DeviceType.toJson a.filter.type),
      ("required_sensors", namesJson a.filter.sensors),
      ("required_properties", Json.ofOption .obj a.filter.properties),
      ("required_sensor_properties", Json.ofOption .obj a.filter.sensorProperties),
      ("device_name", textJson a.role), ("prompt", textJson a.prompt)]
  | .setConfig roles pairs =>
    [("devices", namesJson roles),
      ("config", Json.ofList (fun (key, value) => .arr [.str key, value]) pairs)]
  | .dumpConfig roles keys => [("devices", namesJson roles), ("config", Json.ofList .str keys)]
  | .pauseSensor paused roles => [("paused", .bool paused), ("devices", namesJson roles)]
  | .startSensor a | .stopSensor a =>
    [("devices", namesJson a.roles), ("sensors", namesJson a.sensors)]
  | .deviceRecord primitive => [("primitive", .str primitive.text)]

def toJson (a : Action) : Json := .obj (("kind", .str a.kind) :: a.arguments)

end Action

end FieldStudy
