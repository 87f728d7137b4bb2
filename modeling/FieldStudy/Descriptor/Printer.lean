import FieldStudy.Descriptor.Basic
import FieldStudy.Text.Utf8

/-!
# Descriptors as text

One line a value, `KEYWORD=value`; a line with a bare keyword opens a block.
-/

namespace FieldStudy

/-- A line that gives a keyword a value. -/
def valueLine (key : String) (value : String) : List Char := key.toList ++ '=' :: value.toList

/-- The line of a value that may be absent. -/
def optionalLine (key : String) : Option String → List (List Char)
  | some value => [valueLine key value]
  | none => []

/-- The line of a format that may be absent. -/
def formatLine (key : String) (format : Option FieldFormat) : List (List Char) :=
  optionalLine key (format.map FieldFormat.datatype)

def valuesLine (values : List String) : List Char :=
  "VALUES=".toList ++ Text.join [','] (values.map String.toList)

def numberText (n : Nat) : String := String.ofList (Nat.toDigits 10 n)

def SensorParam.lines (p : SensorParam) : List (List Char) :=
  optionalLine "NAME" p.name ++ formatLine "DATATYPE" p.datatype ++ [valuesLine p.values] ++
    optionalLine "UNIT" p.unit

def Sensor.lines (s : Sensor) : List (List Char) :=
  [valueLine "ID" (numberText s.id.toNat)] ++ optionalLine "SENSOR_NAME" s.name ++
    optionalLine "DRIVER_VERSION" s.driverVersion ++
    s.params.flatMap fun p => "PARAM".toList :: p.lines

def Axis.lines (a : Axis) : List (List Char) :=
  optionalLine "NAME" a.name ++ formatLine "DATATYPE" a.datatype ++
    optionalLine "PLOT_ID" a.plotId ++ optionalLine "BAR_ID" a.barId ++
    optionalLine "PICTURE_ID" a.pictureId

def FrameDescription.lines (f : FrameDescription) : List (List Char) :=
  [valueLine "FRAME_ID" (numberText f.id.toNat),
    valueLine "TIMESTAMP_DATATYPE" f.timestamp.datatype] ++
    formatLine "INCR_TIME_DATATYPE" f.increment ++
    f.axes.flatMap fun a => "AXIS".toList :: a.lines

def Button.lines (b : Button) : List (List Char) :=
  optionalLine "NAME" b.name ++ formatLine "DATATYPE" b.datatype ++ optionalLine "INFO" b.info ++
    [valuesLine b.values]

namespace Descriptor

def lines (d : Descriptor) : List (List Char) :=
  (d.sensors.flatMap fun s => "SENSOR".toList :: s.lines) ++
    (d.frames.flatMap fun f => "FRAME_DESC".toList :: f.lines) ++
    d.plotNames.map (valueLine "PLOT_NAME") ++
    d.pictureNames.map (valueLine "PICTURE_NAME") ++
    d.buttons.flatMap fun b => "BUTTON".toList :: b.lines

/-- The text of a descriptor. -/
def text (d : Descriptor) : List Char := Text.join ['\n'] d.lines

def toBytes (d : Descriptor) : List UInt8 := Utf8.encode d.text

end Descriptor

end FieldStudy
