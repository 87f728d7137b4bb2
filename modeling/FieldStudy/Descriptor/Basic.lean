import FieldStudy.Field.Format

/-!
# Sensor descriptors

What a recording says about itself: its sensors with their parameters, the layout of its frames, and
names and buttons for display.
-/

namespace FieldStudy

structure SensorParam where
  name : Option String := none
  datatype : Option FieldFormat := none
  values : List String := []
  unit : Option String := none
deriving DecidableEq, Repr

structure Sensor where
  id : UInt32 := 0
  name : Option String := none
  driverVersion : Option String := none
  params : List SensorParam := []
deriving DecidableEq, Repr

/-- One value of a frame. -/
structure Axis where
  name : Option String := none
  datatype : Option FieldFormat := none
  plotId : Option String := none
  barId : Option String := none
  pictureId : Option String := none
deriving DecidableEq, Repr

/-- The layout of the frames of one id. With an increment format a frame holds several samples, each
with the time since the one before. -/
structure FrameDescription where
  id : UInt8 := 0
  timestamp : FieldFormat := ⟨.little, .uint64⟩
  increment : Option FieldFormat := none
  axes : List Axis := []
deriving DecidableEq, Repr

structure Button where
  name : Option String := none
  datatype : Option FieldFormat := none
  info : Option String := none
  values : List String := []
deriving DecidableEq, Repr

structure Descriptor where
  sensors : List Sensor := []
  frames : List FrameDescription := []
  plotNames : List String := []
  pictureNames : List String := []
  buttons : List Button := []
deriving DecidableEq, Repr

namespace FrameDescription

def isMulti (f : FrameDescription) : Bool := f.increment.isSome

/-- The formats of the axes in order; an axis without a datatype is an error. -/
def axisFormats (f : FrameDescription) : Except RecordingError (List FieldFormat) :=
  f.axes.mapM fun axis =>
    match axis.datatype with
    | some format => .ok format
    | none => .error (.invalidValue "DATATYPE" (axis.name.getD ""))

end FrameDescription

namespace Descriptor

/-- The first frame description of an id. -/
def frame (d : Descriptor) (id : UInt8) : Except RecordingError FrameDescription :=
  match d.frames.find? (·.id == id) with
  | some f => .ok f
  | none => .error (.unknownFrame id)

/-- The first sensor of an id. -/
def sensor (d : Descriptor) (id : UInt32) : Except RecordingError Sensor :=
  match d.sensors.find? (·.id == id) with
  | some s => .ok s
  | none => .error (.unknownSensor id)

/-- The sensor of a frame, whose id has the sensor's in its low four bits. -/
def sensorOfFrame (d : Descriptor) (id : UInt8) : Except RecordingError Sensor :=
  d.sensor (id &&& 0x0f).toUInt32

end Descriptor

/-! ## The motion sensors of a phone -/

namespace Phone

def accId : UInt8 := 0
def gyrId : UInt8 := 1
def uncalAccId : UInt8 := 2
def uncalGyrId : UInt8 := 3

def sensor (id : UInt8) (name : String) : Sensor :=
  { id := id.toUInt32, name := some name, driverVersion := some "0.0.0" }

/-- A frame of 32-bit floats. -/
def frame (id : UInt8) (axes : List String) : FrameDescription :=
  { id, axes := axes.map fun name => { name := some name, datatype := some ⟨.little, .float32⟩ } }

/-- The descriptor of a phone with or without a gyroscope and an accelerometer. -/
def descriptor (hasGyr hasAcc : Bool) : Descriptor :=
  { sensors :=
      (if hasGyr then [sensor gyrId "generic.gyr", sensor uncalGyrId "generic.uncal_gyr"] else []) ++
      (if hasAcc then [sensor accId "generic.acc", sensor uncalAccId "generic.uncal_acc"] else [])
    frames :=
      (if hasGyr then
        [frame gyrId ["gyr_x", "gyr_y", "gyr_z"],
         frame uncalGyrId ["uncal_gyr_x", "uncal_gyr_y", "uncal_gyr_z",
           "bias_gyr_x", "bias_gyr_y", "bias_gyr_z"]] else []) ++
      (if hasAcc then
        [frame accId ["acc_x", "acc_y", "acc_z"],
         frame uncalAccId ["uncal_acc_x", "uncal_acc_y", "uncal_acc_z",
           "bias_acc_x", "bias_acc_y", "bias_acc_z"]] else []) }

end Phone

end FieldStudy
