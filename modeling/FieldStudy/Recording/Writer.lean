import FieldStudy.Recording.Layout
import FieldStudy.Recording.Reader
import FieldStudy.Descriptor.Printer

/-!
# Writing recordings

A `RecordWriter` writes the descriptor to a sink when it is made and then one frame a call. A sink is
a state `σ` that may act on a surrounding state `ω`, such as a file store.
-/

namespace FieldStudy

/-- Where a recording goes. `write` is called once for each nonempty piece. -/
class RecordSink (σ : Type) (ω : outParam Type) where
  write : σ → List UInt8 → ω → Except IoError Unit × σ × ω
  setPaused : σ → Bool → σ
  flush : σ → ω → Except IoError Unit × σ × ω
  close : σ → ω → Except IoError Unit × σ × ω

/-- A writer of frames. While it is paused it writes nothing. -/
structure RecordWriter (σ : Type) where
  sink : σ
  descriptor : Descriptor
  layouts : LayoutTable
  paused : Bool

namespace RecordWriter

variable {σ ω : Type} [RecordSink σ ω]

/-- Writes a piece to a sink, an empty one without a call. -/
def put (sink : σ) (bytes : List UInt8) (w : ω) : Except IoError Unit × σ × ω :=
  if bytes.isEmpty then (.ok (), sink, w) else RecordSink.write sink bytes w

/-- The outcome of a call on the sink as that of a call on the writer. -/
def adopt (writer : RecordWriter σ) (outcome : Except IoError Unit × σ × ω) :
    Except RecordingError Unit × RecordWriter σ × ω :=
  (outcome.1.mapError .io, { writer with sink := outcome.2.1 }, outcome.2.2)

/-- A writer for a descriptor, whose text and its end are written. The writer is of use only if no
failure comes with it. -/
def create (sink : σ) (descriptor : Descriptor) (w : ω) :
    Except RecordingError Unit × RecordWriter σ × ω :=
  match LayoutTable.ofDescriptor descriptor with
  | .error e => (.error e, ⟨sink, descriptor, [], false⟩, w)
  | .ok layouts =>
    let writer : RecordWriter σ := ⟨sink, descriptor, layouts, false⟩
    match writer.adopt (put sink descriptor.toBytes w) with
    | (.ok (), writer, w) => writer.adopt (put writer.sink headerEnd w)
    | failed => failed

def setPaused (writer : RecordWriter σ) (paused : Bool) : RecordWriter σ :=
  { writer with paused, sink := RecordSink.setPaused (ω := ω) writer.sink paused }

/-- Writes a frame, or reports why there is none. -/
def putFrame (writer : RecordWriter σ) (frame : Except RecordingError (List UInt8)) (w : ω) :
    Except RecordingError Unit × RecordWriter σ × ω :=
  match frame with
  | .ok bytes => writer.adopt (put writer.sink bytes w)
  | .error e => (.error e, writer, w)

/-- Writes a frame of one sample. -/
def write (writer : RecordWriter σ) (id : UInt8) (timestamp : Scalar) (values : List Scalar)
    (w : ω) : Except RecordingError Unit × RecordWriter σ × ω :=
  if writer.paused then (.ok (), writer, w)
  else writer.putFrame ((writer.layouts.get id).map (·.single id timestamp values)) w

/-- Writes a frame of several samples; without samples it writes nothing. -/
def writeMulti (writer : RecordWriter σ) (id : UInt8) (timestamp : Scalar) (samples : List Sample)
    (w : ω) : Except RecordingError Unit × RecordWriter σ × ω :=
  if writer.paused || samples.isEmpty then (.ok (), writer, w)
  else if maxSamples < samples.length then (.error (.tooManySamples samples.length), writer, w)
  else writer.putFrame ((writer.layouts.get id).bind (·.multi id timestamp samples)) w

def flush (writer : RecordWriter σ) (w : ω) : Except RecordingError Unit × RecordWriter σ × ω :=
  writer.adopt (RecordSink.flush writer.sink w)

def close (writer : RecordWriter σ) (w : ω) : Except RecordingError Unit × RecordWriter σ × ω :=
  writer.adopt (RecordSink.close writer.sink w)

end RecordWriter

/-! ## A sink in memory -/

/-- What a sink is told besides the data. -/
inductive SinkCall
  | flush
  | close
  | paused (value : Bool)
deriving DecidableEq, Repr

def SinkCall.text : SinkCall → String
  | .flush => "flush"
  | .close => "close"
  | .paused true => "paused=true"
  | .paused false => "paused=false"

/-- A sink that keeps what is written and what it is told, and refuses data that would exceed its
capacity. -/
structure MemorySink where
  stored : List UInt8 := []
  calls : List SinkCall := []
  capacity : Option Nat := none
deriving DecidableEq, Repr

namespace MemorySink

def accepts (s : MemorySink) (bytes : List UInt8) : Bool :=
  match s.capacity with
  | some limit => s.stored.length + bytes.length ≤ limit
  | none => true

def append (s : MemorySink) (bytes : List UInt8) : MemorySink :=
  { s with stored := s.stored ++ bytes }

def tell (s : MemorySink) (call : SinkCall) : MemorySink := { s with calls := s.calls ++ [call] }

end MemorySink

instance : RecordSink MemorySink Unit where
  write s bytes _ :=
    if s.accepts bytes then (.ok (), s.append bytes, ())
    else (.error (.refused "sink full"), s, ())
  setPaused s paused := s.tell (.paused paused)
  flush s _ := (.ok (), s.tell .flush, ())
  close s _ := (.ok (), s.tell .close, ())

end FieldStudy
