import FieldStudy.Descriptor.Basic
import FieldStudy.Text.Utf8

/-!
# Reading descriptors

A text is read line by line into a `Draft`: what is finished, and the block that is open. A line goes to
the innermost open block that knows its keyword and closes the blocks within; the first line whose
keyword no open block knows ends the reading.
-/

namespace FieldStudy

/-- A line of a descriptor: its keyword, and its value unless that is empty. -/
structure DescriptorLine where
  key : String
  value : Option String
deriving DecidableEq, Repr

namespace DescriptorLine

/-- Reads a trimmed line. -/
def ofChars (cs : List Char) : DescriptorLine :=
  match Text.splitFirst '=' cs with
  | some (key, value) =>
    let value := Text.trimBlank value
    ⟨String.ofList (Text.trimBlank key),
      if value.isEmpty then none else some (String.ofList value)⟩
  | none => ⟨String.ofList cs, none⟩

/-- The lines of a text, blank ones left out. -/
def ofText (cs : List Char) : List DescriptorLine :=
  (((Text.splitAll '\n' cs).map Text.trimBlank).filter (!·.isEmpty)).map ofChars

def raw (l : DescriptorLine) : String := l.value.getD ""

/-- The value as a list, its empty elements left out. -/
def values (l : DescriptorLine) : List String :=
  ((Text.splitAll ',' l.raw.toList).filter (!·.isEmpty)).map String.ofList

def format (l : DescriptorLine) : Except RecordingError FieldFormat := FieldFormat.ofDatatype l.raw

/-- The value of decimal digits, a plus sign before them left out. -/
def number? (cs : List Char) : Option Nat :=
  let digits := match cs with
    | '+' :: rest => rest
    | _ => cs
  if digits.isEmpty || !digits.all Char.isDigit then none
  else some (digits.foldl (fun n c => n * 10 + (c.toNat - '0'.toNat)) 0)

/-- The value as a number below `limit`. -/
def number (l : DescriptorLine) (limit : Nat) : Except RecordingError Nat :=
  match number? l.raw.toList with
  | some n => if n < limit then .ok n else .error (.invalidValue l.key l.raw)
  | none => .error (.invalidValue l.key l.raw)

end DescriptorLine

/-! ## Lines within a block

Each function answers nothing for a keyword that the block does not know. -/

open DescriptorLine

def SensorParam.update? (p : SensorParam) (l : DescriptorLine) :
    Option (Except RecordingError SensorParam) :=
  match l.key with
  | "NAME" => some (.ok { p with name := l.value })
  | "DATATYPE" => some (l.format.map fun f => { p with datatype := some f })
  | "VALUES" => some (.ok { p with values := l.values })
  | "UNIT" => some (.ok { p with unit := l.value })
  | _ => none

def Sensor.update? (s : Sensor) (l : DescriptorLine) : Option (Except RecordingError Sensor) :=
  match l.key with
  | "ID" => some ((l.number UInt32.size).map fun n => { s with id := UInt32.ofNat n })
  | "SENSOR_NAME" => some (.ok { s with name := l.value })
  | "DRIVER_VERSION" => some (.ok { s with driverVersion := l.value })
  | _ => none

def Axis.update? (a : Axis) (l : DescriptorLine) : Option (Except RecordingError Axis) :=
  match l.key with
  | "NAME" => some (.ok { a with name := l.value })
  | "DATATYPE" => some (l.format.map fun f => { a with datatype := some f })
  | "PLOT_ID" => some (.ok { a with plotId := l.value })
  | "BAR_ID" => some (.ok { a with barId := l.value })
  | "PICTURE_ID" => some (.ok { a with pictureId := l.value })
  | _ => none

def FrameDescription.update? (f : FrameDescription) (l : DescriptorLine) :
    Option (Except RecordingError FrameDescription) :=
  match l.key with
  | "FRAME_ID" => some ((l.number UInt8.size).map fun n => { f with id := UInt8.ofNat n })
  | "TIMESTAMP_DATATYPE" => some (l.format.map fun t => { f with timestamp := t })
  | "INCR_TIME_DATATYPE" => some (l.format.map fun i => { f with increment := some i })
  | _ => none

def Button.update? (b : Button) (l : DescriptorLine) : Option (Except RecordingError Button) :=
  match l.key with
  | "NAME" => some (.ok { b with name := l.value })
  | "DATATYPE" => some (l.format.map fun f => { b with datatype := some f })
  | "INFO" => some (.ok { b with info := l.value })
  | "VALUES" => some (.ok { b with values := l.values })
  | _ => none

/-! ## Drafts -/

/-- The block that lines go to; an inner block comes with the one that holds it. -/
inductive OpenBlock
  | top
  | sensor (s : Sensor)
  | param (s : Sensor) (p : SensorParam)
  | frame (f : FrameDescription)
  | axis (f : FrameDescription) (a : Axis)
  | button (b : Button)
  /-- A line with a keyword that no block knew has been read. -/
  | ended
deriving DecidableEq, Repr

/-- A descriptor that is being read. -/
structure Draft where
  finished : Descriptor := {}
  block : OpenBlock := .top
deriving DecidableEq, Repr

namespace Draft

/-- The descriptor with the open block added to it. -/
def descriptor (d : Draft) : Descriptor :=
  match d.block with
  | .top | .ended => d.finished
  | .sensor s => { d.finished with sensors := d.finished.sensors ++ [s] }
  | .param s p =>
    { d.finished with sensors := d.finished.sensors ++ [{ s with params := s.params ++ [p] }] }
  | .frame f => { d.finished with frames := d.finished.frames ++ [f] }
  | .axis f a =>
    { d.finished with frames := d.finished.frames ++ [{ f with axes := f.axes ++ [a] }] }
  | .button b => { d.finished with buttons := d.finished.buttons ++ [b] }

/-- Reads a line while no block is open. -/
def topLine (d : Descriptor) (l : DescriptorLine) : Draft :=
  match l.key with
  | "SENSOR" => ⟨d, .sensor {}⟩
  | "FRAME_DESC" => ⟨d, .frame {}⟩
  | "PLOT_NAME" => ⟨{ d with plotNames := d.plotNames ++ l.value.toList }, .top⟩
  | "PICTURE_NAME" => ⟨{ d with pictureNames := d.pictureNames ++ l.value.toList }, .top⟩
  | "BUTTON" => ⟨d, .button {}⟩
  | _ => ⟨d, .ended⟩

def sensorLine (d : Descriptor) (s : Sensor) (l : DescriptorLine) :
    Except RecordingError Draft :=
  if l.key = "PARAM" then .ok ⟨d, .param s {}⟩
  else match s.update? l with
    | some r => r.map fun s => ⟨d, .sensor s⟩
    | none => .ok (topLine { d with sensors := d.sensors ++ [s] } l)

def frameLine (d : Descriptor) (f : FrameDescription) (l : DescriptorLine) :
    Except RecordingError Draft :=
  if l.key = "AXIS" then .ok ⟨d, .axis f {}⟩
  else match f.update? l with
    | some r => r.map fun f => ⟨d, .frame f⟩
    | none => .ok (topLine { d with frames := d.frames ++ [f] } l)

/-- Reads one line. -/
def line (d : Draft) (l : DescriptorLine) : Except RecordingError Draft :=
  match d.block with
  | .top => .ok (topLine d.finished l)
  | .sensor s => sensorLine d.finished s l
  | .param s p =>
    match p.update? l with
    | some r => r.map fun p => ⟨d.finished, .param s p⟩
    | none => sensorLine d.finished { s with params := s.params ++ [p] } l
  | .frame f => frameLine d.finished f l
  | .axis f a =>
    match a.update? l with
    | some r => r.map fun a => ⟨d.finished, .axis f a⟩
    | none => frameLine d.finished { f with axes := f.axes ++ [a] } l
  | .button b =>
    match b.update? l with
    | some r => r.map fun b => ⟨d.finished, .button b⟩
    | none => .ok (topLine { d.finished with buttons := d.finished.buttons ++ [b] } l)
  | .ended => .ok d

def lines (d : Draft) (ls : List DescriptorLine) : Except RecordingError Draft := ls.foldlM line d

end Draft

namespace Descriptor

def ofText (cs : List Char) : Except RecordingError Descriptor :=
  (Draft.lines {} (DescriptorLine.ofText cs)).map Draft.descriptor

def ofBytes (bytes : List UInt8) : Except RecordingError Descriptor :=
  match Utf8.decode bytes with
  | .ok cs => ofText cs
  | .error e => .error (.invalidHeader e.message)

end Descriptor

end FieldStudy
