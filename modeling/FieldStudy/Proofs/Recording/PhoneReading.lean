import Mathlib.Data.List.Basic
import Mathlib.Tactic.Common
import FieldStudy.Proofs.Field.Codec
import FieldStudy.Proofs.Recording.PhoneFile
import FieldStudy.Proofs.Recording.RoundTrip
import FieldStudy.Proofs.Recording.Truncation

/-!
# Reading the recordings of a phone

The header of a phone is read as its descriptor, and each frame as the sample that it was written for
(`RecordReader.batches_samples`).  A header that stands where a frame is expected is none: its first byte is taken as
the id of a frame that no descriptor has.
-/

namespace FieldStudy

namespace PhoneSample

/-- The sample as it is read: its values are widened to 64 bits, those that are missing are zero, and those beyond the
width are left out. -/
def read (x : PhoneSample) : Frame where
  id := x.frame
  timestamp := x.timestamp.toInt64
  values := (List.range x.width).map fun i => .float ((x.values[i]?).getD ⟨0⟩).quiet.toDouble

/-- The layout of the frames of a motion sensor. -/
def layout (x : PhoneSample) : FrameLayout :=
  ⟨⟨.little, .uint64⟩, none, List.replicate x.width ⟨.little, .float32⟩⟩

lemma find?_layouts {x : PhoneSample} {sensor : String} (h : SensorType.frameId? sensor = some x.frame) :
    Phone.layouts.find? x.frame = some x.layout := by
  obtain ⟨frame, timestamp, values⟩ := x
  unfold SensorType.frameId? at h
  split at h
  · obtain rfl := Option.some.inj h
    rfl
  · split at h
    · obtain rfl := Option.some.inj h
      rfl
    · split at h
      · obtain rfl := Option.some.inj h
        rfl
      · split at h
        · obtain rfl := Option.some.inj h
          rfl
        · cases h

/-- A value is read back bit by bit. -/
lemma unpack?_value (v : Single) (rest : List UInt8) :
    FieldFormat.unpack? ⟨.little, .float32⟩ (littleBytes 4 v.quiet.bits.toNat ++ rest) =
      some (.float v.quiet.toDouble, rest) := by
  have hpack : littleBytes 4 v.quiet.bits.toNat = FieldFormat.pack ⟨.little, .float32⟩ (.float v.toDouble) := by
    rw [← Single.toSingle_toDouble]
    rfl
  have hword : FieldCode.word .float32 (.float v.toDouble) = v.quiet.bits.toNat := by
    rw [← Single.toSingle_toDouble]
    rfl
  have hbits : v.quiet.bits.toNat % 256 ^ FieldFormat.size ⟨.little, .float32⟩ = v.quiet.bits.toNat :=
    Nat.mod_eq_of_lt v.quiet.bits.toNat_lt
  rw [hpack, FieldFormat.unpack?_pack, hword, hbits]
  exact congrArg (fun x : Single => some (Scalar.float x.toDouble, rest)) (Single.eq_of_toNat rfl)

lemma unpackAll?_values (n : Nat) (value : Nat → Single) (rest : List UInt8) :
    FieldFormat.unpackAll? (List.replicate n ⟨.little, .float32⟩)
      ((List.range n).flatMap (fun i => littleBytes 4 (value i).quiet.bits.toNat) ++ rest) =
      some ((List.range n).map fun i => .float (value i).quiet.toDouble, rest) := by
  induction n generalizing value with
  | zero => rfl
  | succ n ih =>
    rw [List.replicate_succ, List.range_succ_eq_map, List.flatMap_cons, List.flatMap_map, List.append_assoc,
      List.map_cons, List.map_map]
    have hrest := ih fun i => value (i + 1)
    simp only [FieldFormat.unpackAll?, unpack?_value, Option.bind_eq_bind, Option.bind_some, Nat.succ_eq_add_one, hrest]
    simp [Function.comp_def]

lemma unpack?_time (timestamp : UInt64) (rest : List UInt8) :
    FieldFormat.unpack? ⟨.little, .uint64⟩ (littleBytes 8 timestamp.toNat ++ rest) = some (.uint timestamp, rest) := by
  have hbits : timestamp.toNat % 256 ^ FieldFormat.size ⟨.little, .uint64⟩ = timestamp.toNat :=
    Nat.mod_eq_of_lt timestamp.toNat_lt
  refine (FieldFormat.unpack?_pack ⟨.little, .uint64⟩ (.uint timestamp) rest).trans ?_
  show some (Scalar.uint (UInt64.ofNat (timestamp.toNat % 256 ^ FieldFormat.size ⟨.little, .uint64⟩)), rest) = _
  rw [hbits, UInt64.ofNat_toNat]

/-- The bytes of a sample are read as the sample, whatever follows them. -/
lemma batch_bytes {x : PhoneSample} {sensor : String} (h : SensorType.frameId? sensor = some x.frame)
    (rest : List UInt8) :
    RecordReader.batch Phone.layouts (x.bytes ++ rest) = .ok (some ([x.read], rest)) := by
  have hread : x.layout.read? 0 (littleBytes 8 x.timestamp.toNat ++
      ((List.range x.width).flatMap (fun i => littleBytes 4 ((x.values[i]?).getD ⟨0⟩).quiet.bits.toNat) ++ rest)) =
      some (x.timestamp.toInt64, [(0, x.read.values)], rest) := by
    have hcount : x.layout.sampleCount 0 = 1 := rfl
    rw [FrameLayout.read?, show x.layout.timestamp = ⟨.little, .uint64⟩ from rfl, unpack?_time, hcount]
    simp only [Option.bind_eq_bind, Option.bind_some, FrameLayout.readSamples?, FrameLayout.readIncrement?, layout,
      unpackAll?_values x.width fun i => (x.values[i]?).getD ⟨0⟩]
    rfl
  rw [bytes, List.append_assoc, List.append_assoc]
  simp only [List.cons_append, List.nil_append, RecordReader.batch, find?_layouts h, hread]
  simp [stampSamples, totalIncrement, read]

end PhoneSample

namespace RecordReader

/-- The header of a phone is read as its descriptor, and what follows it is left. -/
lemma ofBytes_phoneHeader (rest : List UInt8) :
    ofBytes (RecordWriter.phoneHeader ++ rest) = .ok ⟨Phone.descriptor true true, Phone.layouts, rest⟩ := by
  have hprintable : (Phone.descriptor true true).Printable := by decide +kernel
  have hreturn : (Phone.descriptor true true).HasNoReturn := ⟨by decide +kernel, by decide +kernel⟩
  exact ofBytes_of_layouts hprintable hreturn Phone.layouts_descriptor rest

/-- The id that a header is taken for where a frame is expected. -/
def headerId : UInt8 := 0x53

lemma batches_phoneHeader (rest : List UInt8) :
    batches Phone.layouts (RecordWriter.phoneHeader ++ rest) = ([], some (.unknownFrame headerId)) := by
  have hstart : RecordWriter.phoneHeader.take 2 = [headerId, 0x45] := by decide +kernel
  rw [← RecordWriter.phoneHeader.take_append_drop 2, hstart]
  generalize RecordWriter.phoneHeader.drop 2 = body
  exact batches_of_error rfl

/-- Frames of samples are read one after another. -/
lemma batches_samples {samples : List PhoneSample}
    (h : ∀ x ∈ samples, ∃ sensor, SensorType.frameId? sensor = some x.frame) (rest : List UInt8) :
    batches Phone.layouts (samples.flatMap PhoneSample.bytes ++ rest) =
      (samples.map (fun x => [x.read]) ++ (batches Phone.layouts rest).1, (batches Phone.layouts rest).2) := by
  induction samples with
  | nil => rfl
  | cons x more ih =>
    obtain ⟨sensor, hsensor⟩ := h x (by simp)
    rw [List.flatMap_cons, List.append_assoc, batches_of_batch (PhoneSample.batch_bytes hsensor _),
      ih fun y hy => h y (List.mem_cons_of_mem x hy)]
    rfl

end RecordReader

end FieldStudy
