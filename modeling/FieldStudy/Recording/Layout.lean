import FieldStudy.Descriptor.Basic
import FieldStudy.Field.Scalar

/-!
# Frames as bytes

A frame begins with its id and with one less than the number of its samples. Then comes the timestamp,
and for every sample the increment, if the layout has one, and the axes. `FrameLayout.single` and
`FrameLayout.multi` write a frame, each in its own way, and what they write is `FrameLayout.frameBytes`.
`FrameLayout.read?` reads what stands behind the first two bytes.
-/

namespace FieldStudy

/-- The formats of the fields of a frame. -/
structure FrameLayout where
  timestamp : FieldFormat
  increment : Option FieldFormat
  axes : List FieldFormat
deriving DecidableEq, Repr

def FrameDescription.layout (f : FrameDescription) : Except RecordingError FrameLayout :=
  f.axisFormats.map fun axes => ⟨f.timestamp, f.increment, axes⟩

/-- The layouts of a descriptor in its order; of several for one id the last one counts. -/
abbrev LayoutTable := List (UInt8 × FrameLayout)

namespace LayoutTable

def ofDescriptor (d : Descriptor) : Except RecordingError LayoutTable :=
  d.frames.mapM fun f => f.layout.map (f.id, ·)

def find? (t : LayoutTable) (id : UInt8) : Option FrameLayout :=
  (t.reverse.find? (·.1 == id)).map (·.2)

def get (t : LayoutTable) (id : UInt8) : Except RecordingError FrameLayout :=
  match t.find? id with
  | some l => .ok l
  | none => .error (.unknownFrame id)

end LayoutTable

/-- Values of one sample, with the time since the sample before. -/
structure Sample where
  increment : Scalar
  values : List Scalar
deriving DecidableEq, Repr

/-- The largest number of samples of one frame. -/
def maxSamples : Nat := 256

namespace FrameLayout

/-- Writes one value for each format: missing values are zero, further ones are left out. -/
def packAxes : List FieldFormat → List Scalar → List UInt8
  | [], _ => []
  | f :: fs, [] => f.pack .zero ++ packAxes fs []
  | f :: fs, v :: vs => f.pack v ++ packAxes fs vs

/-- A frame of one sample, whose increment is zero if the layout has one. -/
def single (l : FrameLayout) (id : UInt8) (timestamp : Scalar) (values : List Scalar) :
    List UInt8 :=
  let increment :=
    match l.increment with
    | some f => f.pack .zero
    | none => []
  [id, 0] ++ l.timestamp.pack timestamp ++ increment ++ packAxes l.axes values

/-- A frame of several samples, for a layout with increments. -/
def multi (l : FrameLayout) (id : UInt8) (timestamp : Scalar) (samples : List Sample) :
    Except RecordingError (List UInt8) :=
  match l.increment with
  | some f =>
    .ok ([id, UInt8.ofNat (samples.length - 1)] ++ l.timestamp.pack timestamp ++
      samples.flatMap fun s => f.pack s.increment ++ packAxes l.axes s.values)
  | none => .error (.notMultiFrame id)

/-! ## One form for both kinds of frames -/

def packIncrement (l : FrameLayout) (increment : Scalar) : List UInt8 :=
  match l.increment with
  | some f => f.pack increment
  | none => []

def packSample (l : FrameLayout) (s : Sample) : List UInt8 :=
  l.packIncrement s.increment ++ packAxes l.axes s.values

/-- The bytes of a frame of at least one sample. -/
def frameBytes (l : FrameLayout) (id : UInt8) (timestamp : Scalar) (samples : List Sample) :
    List UInt8 :=
  [id, UInt8.ofNat (samples.length - 1)] ++ l.timestamp.pack timestamp ++
    samples.flatMap l.packSample

theorem single_eq_frameBytes (l : FrameLayout) (id : UInt8) (timestamp : Scalar)
    (values : List Scalar) :
    l.single id timestamp values = l.frameBytes id timestamp [⟨.zero, values⟩] := by
  cases h : l.increment <;> simp [single, frameBytes, packSample, packIncrement, h]

theorem multi_eq_frameBytes {l : FrameLayout} (h : l.increment ≠ none) (id : UInt8)
    (timestamp : Scalar) (samples : List Sample) :
    l.multi id timestamp samples = .ok (l.frameBytes id timestamp samples) := by
  obtain ⟨f, hf⟩ := Option.ne_none_iff_exists'.1 h
  have hsample : l.packSample = fun s => f.pack s.increment ++ packAxes l.axes s.values := by
    funext s
    simp [packSample, packIncrement, hf]
  simp [multi, frameBytes, hf, hsample]

theorem multi_of_none {l : FrameLayout} (h : l.increment = none) (id : UInt8)
    (timestamp : Scalar) (samples : List Sample) :
    l.multi id timestamp samples = .error (.notMultiFrame id) := by
  simp [multi, h]

/-! ## Sizes -/

def axesSize (l : FrameLayout) : Nat := FieldFormat.totalSize l.axes

def incrementSize (l : FrameLayout) : Nat := (l.increment.map FieldFormat.size).getD 0

def sampleSize (l : FrameLayout) : Nat := l.incrementSize + l.axesSize

theorem length_packAxes (fs : List FieldFormat) (vs : List Scalar) :
    (packAxes fs vs).length = FieldFormat.totalSize fs := by
  induction fs generalizing vs with
  | nil => rfl
  | cons f fs ih => cases vs <;> simp [packAxes, ih]

theorem length_packSample (l : FrameLayout) (s : Sample) :
    (l.packSample s).length = l.sampleSize := by
  simp only [packSample, List.length_append, length_packAxes, sampleSize, axesSize]
  cases h : l.increment <;> simp [packIncrement, incrementSize, h]

theorem length_frameBytes (l : FrameLayout) (id : UInt8) (timestamp : Scalar)
    (samples : List Sample) :
    (l.frameBytes id timestamp samples).length =
      2 + l.timestamp.size + samples.length * l.sampleSize := by
  have h : (samples.flatMap l.packSample).length = samples.length * l.sampleSize := by
    induction samples with
    | nil => simp
    | cons s rest ih => simp [length_packSample, ih, Nat.succ_mul, Nat.add_comm]
  simp [frameBytes, h]; omega

/-! ## Reading -/

/-- The increment, if the layout has one, as a signed word. -/
def readIncrement? (l : FrameLayout) (bytes : List UInt8) : Option (Int64 × List UInt8) :=
  match l.increment with
  | some f => (f.unpack? bytes).map fun (s, rest) => (s.toInt64, rest)
  | none => some (0, bytes)

/-- Reads samples: the increment and the values of each. -/
def readSamples? (l : FrameLayout) :
    Nat → List UInt8 → Option (List (Int64 × List Scalar) × List UInt8)
  | 0, bytes => some ([], bytes)
  | n + 1, bytes => do
    let (increment, bytes) ← l.readIncrement? bytes
    let (values, bytes) ← FieldFormat.unpackAll? l.axes bytes
    let (samples, bytes) ← l.readSamples? n bytes
    return ((increment, values) :: samples, bytes)

/-- The number of samples that the second byte of a frame announces; without increments there is one. -/
def sampleCount (l : FrameLayout) (count : UInt8) : Nat :=
  if l.increment.isSome then count.toNat + 1 else 1

/-- Reads the timestamp and the samples of a frame. -/
def read? (l : FrameLayout) (count : UInt8) (bytes : List UInt8) :
    Option (Int64 × List (Int64 × List Scalar) × List UInt8) := do
  let (timestamp, bytes) ← l.timestamp.unpack? bytes
  let (samples, bytes) ← l.readSamples? (l.sampleCount count) bytes
  return (timestamp.toInt64, samples, bytes)

theorem length_of_readIncrement? {l : FrameLayout} {bytes rest : List UInt8} {i : Int64}
    (h : l.readIncrement? bytes = some (i, rest)) :
    bytes.length = l.incrementSize + rest.length := by
  unfold readIncrement? at h
  cases hi : l.increment with
  | none => simp_all [incrementSize]
  | some f =>
    simp only [hi, Option.map_eq_some_iff] at h
    obtain ⟨⟨s, b⟩, hs, he⟩ := h
    simp only [Prod.mk.injEq] at he
    rw [he.2] at hs
    simp [incrementSize, hi, FieldFormat.length_of_unpack? hs]

theorem length_of_readSamples? {l : FrameLayout} {n : Nat} {bytes rest : List UInt8}
    {ss : List (Int64 × List Scalar)} (h : l.readSamples? n bytes = some (ss, rest)) :
    bytes.length = n * l.sampleSize + rest.length := by
  induction n generalizing bytes ss with
  | zero => simp_all [readSamples?]
  | succ n ih =>
    simp only [readSamples?, Option.bind_eq_bind, Option.bind_eq_some_iff] at h
    obtain ⟨⟨i, b1⟩, hi, ⟨vs, b2⟩, hv, ⟨ss', b3⟩, hs, he⟩ := h
    simp only [Option.pure_def, Option.some.injEq, Prod.mk.injEq] at he
    rw [he.2] at hs
    have h1 := length_of_readIncrement? hi
    have h2 := FieldFormat.length_of_unpackAll? hv
    have h3 := ih hs
    simp only [sampleSize, axesSize, Nat.succ_mul] at h1 h2 h3 ⊢
    omega

theorem length_of_read? {l : FrameLayout} {count : UInt8} {bytes rest : List UInt8} {t : Int64}
    {ss : List (Int64 × List Scalar)} (h : l.read? count bytes = some (t, ss, rest)) :
    bytes.length = l.timestamp.size + l.sampleCount count * l.sampleSize + rest.length := by
  simp only [read?, Option.bind_eq_bind, Option.bind_eq_some_iff] at h
  obtain ⟨⟨t', b1⟩, ht, ⟨ss', b2⟩, hs, he⟩ := h
  simp only [Option.pure_def, Option.some.injEq, Prod.mk.injEq] at he
  rw [he.2.2] at hs
  have h1 := FieldFormat.length_of_unpack? ht
  have h2 := length_of_readSamples? hs
  simp only at h1 h2
  omega

end FrameLayout

end FieldStudy
