import FieldStudy.Storage.IoError

/-!
# Failures of describing, writing and reading recordings
-/

namespace FieldStudy

/-- Why a descriptor or a recording could not be written or read. -/
inductive RecordingError
  | unknownDatatype (datatype : String)
  /-- A value of a descriptor line that cannot be read. -/
  | invalidValue (key value : String)
  | unknownFrame (id : UInt8)
  | unknownSensor (id : UInt32)
  /-- More samples than one frame can hold. -/
  | tooManySamples (count : Nat)
  /-- Several samples for a frame without time increments. -/
  | notMultiFrame (id : UInt8)
  | invalidHeader (reason : String)
  | io (e : IoError)
deriving DecidableEq, Repr

def RecordingError.message : RecordingError → String
  | .unknownDatatype datatype => s!"Unknown datatype: {datatype}"
  | .invalidValue key value => "Invalid descriptor value for '" ++ key ++ "': " ++ value
  | .unknownFrame id => s!"frame_id {id.toNat} not found in sensor descriptor"
  | .unknownSensor id => s!"sensor_id {id.toNat} not found in sensor descriptor"
  | .tooManySamples count => s!"Multi frame holds {count} samples, at most 256 allowed"
  | .notMultiFrame id => s!"frame_id {id.toNat} has no INCR_TIME_DATATYPE"
  | .invalidHeader reason => s!"Invalid record header: {reason}"
  | .io e => s!"I/O error: {e.message}"

end FieldStudy
