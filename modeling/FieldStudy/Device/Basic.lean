import FieldStudy.Json.Decoder
import FieldStudy.Recording.Layout

/-!
# Sensor devices

A device offers sensors and has properties. During a run a device is bound to a role, together with the
configuration of that role.
-/

namespace FieldStudy

/-! ## Kinds of sensors -/

namespace SensorType

def acc : String := "generic.acc"
def gyr : String := "generic.gyr"
def uncalAcc : String := "generic.uncal_acc"
def uncalGyr : String := "generic.uncal_gyr"
def mic : String := "generic.mic"

/-- The id of the frames that hold the samples of a motion sensor. -/
def frameId? (sensor : String) : Option UInt8 :=
  if sensor = acc then some Phone.accId
  else if sensor = gyr then some Phone.gyrId
  else if sensor = uncalAcc then some Phone.uncalAccId
  else if sensor = uncalGyr then some Phone.uncalGyrId
  else none

/-- Whether samples of the sensor come one by one to a listener. -/
def isMotion (sensor : String) : Bool := (frameId? sensor).isSome

end SensorType

/-! ## Devices -/

inductive DeviceType
  | mobilePhone
  | esp32Logger
deriving DecidableEq, Repr

namespace DeviceType

def text : DeviceType → String
  | .mobilePhone => "mobile_phone"
  | .esp32Logger => "esp32_logger"

def ofText? (s : String) : Option DeviceType :=
  [mobilePhone, esp32Logger].find? (·.text == s)

def toJson (t : DeviceType) : Json := .str t.text

end DeviceType

/-- A sensor of a device. -/
structure SensorInfo where
  name : String
  type : String
  properties : Dict Json
deriving BEq

namespace SensorInfo

def ofType (type : String) : SensorInfo := ⟨type, type, []⟩

/-- A property; the name and the type count as such. -/
def property? (s : SensorInfo) (key : String) : Option Json :=
  if key = "name" then some (.str s.name)
  else if key = "type" then some (.str s.type)
  else s.properties.get? key

def decoder : Decoder SensorInfo := fun s => do
  let (m, others) ← Decoder.collected? ["name", "type"] s
  return ⟨← m.withDefault "name" "" Decoder.string, ← m.required "type" Decoder.string, others⟩

def toJson (s : SensorInfo) : Json :=
  .obj ([("name", .str s.name), ("type", .str s.type)] ++ s.properties)

end SensorInfo

structure Device where
  type : DeviceType
  sensors : List SensorInfo
  properties : Dict Json
deriving BEq

namespace Device

def hasSensor (d : Device) (type : String) : Bool := d.sensors.any (·.type == type)

/-- A property; the device type counts as such. -/
def property? (d : Device) (key : String) : Option Json :=
  if key = "sensor_device_type" then some d.type.toJson else d.properties.get? key

/-- A device with sensors of these types. -/
def ofSensors (type : DeviceType) (sensors : List String) : Device :=
  ⟨type, sensors.map .ofType, []⟩

def withProperty (d : Device) (key : String) (value : Json) : Device :=
  { d with properties := d.properties.insert key value }

def decoder : Decoder Device := fun s => do
  let (m, others) ← Decoder.collected? ["sensor_device_type", "sensors_list"] s
  return ⟨← m.required "sensor_device_type" (Decoder.named false DeviceType.ofText?),
    ← m.withDefault "sensors_list" [] (Decoder.list SensorInfo.decoder), others⟩

def toJson (d : Device) : Json :=
  .obj ([("sensor_device_type", d.type.toJson),
    ("sensors_list", Json.ofList SensorInfo.toJson d.sensors)] ++ d.properties)

end Device

/-! ## Configurations -/

/-- Merges settings into a configuration. Where both hold an object for a key, the settings replace its
members one by one; otherwise they replace the whole value. -/
def mergeConfig (config values : Dict Json) : Dict Json :=
  values.foldl (fun config (key, value) =>
    match config.get? key, value with
    | some (.obj existing), .obj update =>
      config.insert key (.obj (update.foldl (fun d (k, v) => Dict.insert d k v) existing))
    | _, _ => config.insert key value) config

/-- A device bound to a role. -/
structure RoleBinding where
  role : String
  device : Device
  config : Dict Json := []
deriving BEq

namespace RoleBinding

/-- Whether samples of the role are to be dropped. -/
def isPaused (b : RoleBinding) : Bool := ((b.config.get? "paused").bind Json.bool?).getD false

/-- The settings for one sensor. -/
def sensorConfig (b : RoleBinding) (sensor : String) : Dict Json :=
  ((b.config.get? sensor).bind Json.members?).getD []

def decoder : Decoder RoleBinding := fun s => do
  let m ← Decoder.members? ["name", "device", "config"] s
  return ⟨← m.required "name" Decoder.string, ← m.required "device" Device.decoder,
    ← m.withDefault "config" [] Decoder.object⟩

def toJson (b : RoleBinding) : Json :=
  .obj [("name", .str b.role), ("device", b.device.toJson), ("config", .obj b.config)]

end RoleBinding

end FieldStudy
