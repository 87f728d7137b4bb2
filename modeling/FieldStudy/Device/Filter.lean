import FieldStudy.Device.Basic

/-!
# Choosing devices
-/

namespace FieldStudy

/-- What a device must be and have to be chosen; absent parts demand nothing. -/
structure DeviceFilter where
  type : Option DeviceType := none
  sensors : Option (List String) := none
  /-- For each property the value, or an array of the allowed values. -/
  properties : Option (Dict Json) := none
  /-- For each type of sensor such properties of the sensors of that type. -/
  sensorProperties : Option (Dict Json) := none
deriving BEq

/-- Whether a property has the expected value, or one of the values of an array; an absent property counts
as null. -/
def propertyMatches (actual : Option Json) : Json → Bool
  | .arr allowed => allowed.any (·.same (actual.getD .null))
  | expected => (actual.getD .null).same expected

namespace DeviceFilter

/-- Whether the sensor has the properties demanded of its type. -/
def acceptsSensor (demands : Dict Json) (s : SensorInfo) : Bool :=
  match (demands.get? s.type).bind Json.members? with
  | some wanted => wanted.all fun (key, expected) => propertyMatches (s.property? key) expected
  | none => true

def accepts (f : DeviceFilter) (d : Device) : Bool :=
  f.type.all (· == d.type) &&
    f.sensors.all (·.all d.hasSensor) &&
    f.properties.all (·.all fun (key, expected) => propertyMatches (d.property? key) expected) &&
    f.sensorProperties.all fun demands => d.sensors.all (acceptsSensor demands)

/-- The accepted devices in their order. -/
def select (f : DeviceFilter) (devices : List Device) : List Device := devices.filter f.accepts

def fieldNames : List String :=
  ["sensor_device_type", "required_sensors", "required_properties", "required_sensor_properties"]

/-- A filter from its fields. -/
def ofMembers (emptyToo : Bool) (m : Decoder.Members) : Option DeviceFilter := do
  return ⟨← m.defaultNone "sensor_device_type" (Decoder.named emptyToo DeviceType.ofText?),
    ← m.defaultNone "required_sensors" Decoder.oneOrMany,
    ← m.defaultNone "required_properties" Decoder.object,
    ← m.defaultNone "required_sensor_properties" Decoder.object⟩

def decoder : Decoder DeviceFilter := fun s => do
  ofMembers false (← Decoder.members? fieldNames s)

end DeviceFilter

/-- A device that a scenario cannot run without. -/
structure Requirement where
  type : DeviceType
  sensors : List String
deriving DecidableEq, Repr

namespace Requirement

def accepts (r : Requirement) (d : Device) : Bool :=
  r.type == d.type && r.sensors.all d.hasSensor

def decoder : Decoder Requirement := fun s => do
  let m ← Decoder.members? ["sensor_device_type", "required_sensors"] s
  return ⟨← m.required "sensor_device_type" (Decoder.named false DeviceType.ofText?),
    ← m.withDefault "required_sensors" [] (Decoder.list Decoder.string)⟩

def toJson (r : Requirement) : Json :=
  .obj [("sensor_device_type", r.type.toJson), ("required_sensors", Json.ofList .str r.sensors)]

end Requirement

/-- The devices that meet some requirement; without requirements, all of them. -/
def requiredDevices (devices : List Device) (required : List Requirement) : List Device :=
  if required.isEmpty then devices else devices.filter fun d => required.any (·.accepts d)

end FieldStudy
