import FieldStudy.Recording.Layout
import FieldStudy.Descriptor.Parser

/-!
# Reading recordings

A recording is the text of its descriptor, a carriage return and a NUL, and then frames to its end.
`RecordReader.readBatch` reads one frame as a batch of one entry a sample; the timestamp of a
frame is that of its last sample, and the ones before follow from the increments.
-/

namespace FieldStudy

/-- One sample with its own timestamp. -/
structure Frame where
  id : UInt8
  timestamp : Int64
  values : List Scalar
deriving DecidableEq, Repr

/-- What has not been read of a recording. -/
structure RecordReader where
  descriptor : Descriptor
  layouts : LayoutTable
  rest : List UInt8
deriving DecidableEq, Repr

/-- The bytes that end the descriptor. -/
def headerEnd : List UInt8 := [0x0d, 0x00]

/-- The bytes before the first carriage return and those behind it. -/
def splitHeader : List UInt8 → Option (List UInt8 × List UInt8)
  | [] => none
  | b :: rest =>
    if b = 0x0d then some ([], rest)
    else (splitHeader rest).map fun (header, after) => (b :: header, after)

/-- The samples of a frame with their timestamps, from the time before the first one. -/
def stampSamples (id : UInt8) (time : Int64) : List (Int64 × List Scalar) → List Frame
  | [] => []
  | (increment, values) :: rest =>
    ⟨id, time + increment, values⟩ :: stampSamples id (time + increment) rest

/-- The sum of the increments of samples. -/
def totalIncrement (samples : List (Int64 × List Scalar)) : Int64 :=
  samples.foldl (fun t s => t + s.1) 0

namespace RecordReader

/-- Reads the descriptor of a recording. -/
def ofBytes (bytes : List UInt8) : Except RecordingError RecordReader :=
  match splitHeader bytes with
  | none => .error (.invalidHeader "missing \\r\\0 terminator")
  | some (_, []) => .error (.io .endOfData)
  | some (header, b :: rest) =>
    if b ≠ 0 then .error (.invalidHeader "expected NUL after header")
    else do
      let descriptor ← Descriptor.ofBytes header
      return ⟨descriptor, ← LayoutTable.ofDescriptor descriptor, rest⟩

/-- Reads the frame at the front of the bytes; nothing at their end. -/
def batch (layouts : LayoutTable) :
    List UInt8 → Except RecordingError (Option (List Frame × List UInt8))
  | [] => .ok none
  | [_] => .error (.io .endOfData)
  | id :: count :: bytes =>
    match layouts.find? id with
    | none => .error (.unknownFrame id)
    | some layout =>
      match layout.read? count bytes with
      | none => .error (.io .endOfData)
      | some (timestamp, samples, rest) =>
        .ok (some (stampSamples id (timestamp - totalIncrement samples) samples, rest))

theorem length_of_batch {layouts : LayoutTable} {bytes rest : List UInt8} {frames : List Frame}
    (h : batch layouts bytes = .ok (some (frames, rest))) : rest.length < bytes.length := by
  unfold batch at h
  split at h
  · simp at h
  · simp at h
  · split at h
    · simp at h
    · split at h
      · simp at h
      · next hr =>
        simp only [Except.ok.injEq, Option.some.injEq, Prod.mk.injEq] at h
        have := FrameLayout.length_of_read? hr
        rw [← h.2]
        simp; omega

/-- Reads the next batch. -/
def readBatch (r : RecordReader) : Except RecordingError (Option (List Frame × RecordReader)) :=
  (batch r.layouts r.rest).map fun found =>
    found.map fun (frames, rest) => (frames, { r with rest })

/-- The batches up to the end or to the first failure. -/
def batches (layouts : LayoutTable) (bytes : List UInt8) :
    List (List Frame) × Option RecordingError :=
  match h : batch layouts bytes with
  | .error e => ([], some e)
  | .ok none => ([], none)
  | .ok (some (frames, rest)) =>
    have := length_of_batch h
    let (more, e) := batches layouts rest
    (frames :: more, e)
termination_by bytes.length

/-- Reads every batch. -/
def readBatches (r : RecordReader) : List (List Frame) × Option RecordingError :=
  batches r.layouts r.rest

/-- Reads every sample; a failure anywhere is the answer. -/
def readAll (r : RecordReader) : Except RecordingError (List Frame) :=
  match r.readBatches with
  | (found, none) => .ok found.flatten
  | (_, some e) => .error e

end RecordReader

end FieldStudy
