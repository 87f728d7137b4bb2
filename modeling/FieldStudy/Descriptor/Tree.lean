import FieldStudy.Descriptor.Basic
import FieldStudy.Json.Basic

/-!
# Descriptors as JSON values

Each block of a descriptor as an object; a format is its compact text, and what is absent is null.
-/

namespace FieldStudy

namespace FieldFormat

def toJson (f : FieldFormat) : Json := .str f.compact

end FieldFormat

namespace SensorParam

def toJson (p : SensorParam) : Json :=
  .obj [("name", Json.ofOption .str p.name), ("datatype", Json.ofOption FieldFormat.toJson p.datatype),
    ("values", Json.ofList .str p.values), ("unit", Json.ofOption .str p.unit)]

end SensorParam

namespace Sensor

def toJson (s : Sensor) : Json :=
  .obj [("id", .int s.id.toNat), ("sensor_name", Json.ofOption .str s.name),
    ("driver_version", Json.ofOption .str s.driverVersion),
    ("params", Json.ofList SensorParam.toJson s.params)]

end Sensor

namespace Axis

def toJson (a : Axis) : Json :=
  .obj [("name", Json.ofOption .str a.name), ("datatype", Json.ofOption FieldFormat.toJson a.datatype),
    ("plot_id", Json.ofOption .str a.plotId), ("bar_id", Json.ofOption .str a.barId),
    ("picture_id", Json.ofOption .str a.pictureId)]

end Axis

namespace FrameDescription

/-- The members of a frame description. -/
def toMembers (f : FrameDescription) : List (String × Json) :=
  [("frame_id", .int f.id.toNat), ("timestamp", f.timestamp.toJson),
    ("incr", Json.ofOption FieldFormat.toJson f.increment), ("axis", Json.ofList Axis.toJson f.axes),
    ("multi", .bool f.isMulti)]

end FrameDescription

namespace Button

def toJson (b : Button) : Json :=
  .obj [("name", Json.ofOption .str b.name), ("datatype", Json.ofOption FieldFormat.toJson b.datatype),
    ("info", Json.ofOption .str b.info), ("values", Json.ofList .str b.values)]

end Button

end FieldStudy
