import Mathlib.Data.List.Basic
import Mathlib.Tactic.Common
import FieldStudy.Proofs.Field.Codec
import FieldStudy.Recording.Reader

/-!
# Frames are read back

The bytes of a frame of integers are read as one entry for each of its samples (`RecordReader.batch_frameBytes`).
`FrameLayout.batch` says which: the values as the fields hold them, and the time of the last sample less the
increments of the samples after each, in arithmetic modulo `2 ^ 64`.
-/

namespace FieldStudy

/-- The formats of the frame are for integers. -/
structure FrameLayout.IsInteger (l : FrameLayout) : Prop where
  timestamp : l.timestamp.IsInteger
  increment : ∀ f ∈ l.increment, f.IsInteger
  axes : ∀ f ∈ l.axes, f.IsInteger

/-- The increment and the values of the sample are integers. -/
structure Sample.IsInteger (s : Sample) : Prop where
  increment : s.increment.isInteger
  values : ∀ v ∈ s.values, v.isInteger

instance Sample.decidableIsInteger (s : Sample) : Decidable s.IsInteger :=
  decidable_of_iff (s.increment.isInteger ∧ ∀ v ∈ s.values, v.isInteger)
    ⟨fun ⟨h₁, h₂⟩ => ⟨h₁, h₂⟩, fun ⟨h₁, h₂⟩ => ⟨h₁, h₂⟩⟩

/-! ## What a frame holds -/

/-- The values in fields of these formats: zero where one is missing, and none beyond the fields. -/
def storedValues (fs : List FieldFormat) (values : List Scalar) : List Scalar :=
  fs.mapIdx fun i f => f.stored (values.getD i .zero).toInt

namespace FrameLayout

def storedTime (l : FrameLayout) (timestamp : Scalar) : Int64 :=
  Int64.ofInt (l.timestamp.reduce timestamp.toInt)

def storedIncrement (l : FrameLayout) (s : Sample) : Int64 :=
  match l.increment with
  | some f => Int64.ofInt (f.reduce s.increment.toInt)
  | none => 0

/-- The samples of a frame as they are read: the last one has the time of the frame, and each one before
that of the next less the increment of the next. -/
def batch (l : FrameLayout) (id : UInt8) (timestamp : Scalar) (samples : List Sample) : List Frame :=
  samples.mapIdx fun i s =>
    { id
      timestamp := l.storedTime timestamp - ((samples.drop (i + 1)).map l.storedIncrement).sum
      values := storedValues l.axes s.values }

end FrameLayout

/-! ## Reading the fields -/

lemma FieldFormat.toInt64_stored (f : FieldFormat) (v : Int) :
    (f.stored v).toInt64 = Int64.ofInt (f.reduce v) := by
  have hunsigned : (UInt64.ofNat (v % 256 ^ f.size).toNat).toInt64 =
      Int64.ofInt (v % 256 ^ f.size) := by
    have hpos : 0 ≤ v % 256 ^ f.size := Int.emod_nonneg _ (Int.pow_ne_zero (by decide))
    rw [UInt64.toInt64_ofNat', ← Int64.ofInt_eq_ofNat, Int.toNat_of_nonneg hpos]
  rw [stored, reduce]
  cases f.code.kind with
  | signed => rfl
  | unsigned => exact hunsigned
  | float => exact hunsigned

namespace FrameLayout

lemma unpackAll?_packAxes {fs : List FieldFormat} {values : List Scalar}
    (hf : ∀ f ∈ fs, f.IsInteger) (hv : ∀ v ∈ values, v.isInteger) (rest : List UInt8) :
    FieldFormat.unpackAll? fs (packAxes fs values ++ rest) = some (storedValues fs values, rest) := by
  induction fs generalizing values with
  | nil => rfl
  | cons f fs ih =>
    have hff : f.IsInteger := hf f (by simp)
    have hrest : ∀ g ∈ fs, g.IsInteger := fun g hg => hf g (List.mem_cons_of_mem _ hg)
    cases values with
    | nil =>
      have hzero : Scalar.zero.isInteger := rfl
      have hmore := ih hrest (show ∀ v ∈ ([] : List Scalar), v.isInteger by simp)
      rw [packAxes, List.append_assoc, FieldFormat.unpackAll?, FieldFormat.unpack?_pack_integer hff hzero]
      simp [hmore, storedValues]
    | cons v vs =>
      have hmore := ih hrest fun x hx => hv x (List.mem_cons_of_mem v hx)
      rw [packAxes, List.append_assoc, FieldFormat.unpackAll?,
        FieldFormat.unpack?_pack_integer hff (hv v (by simp))]
      simp [hmore, storedValues]

variable {l : FrameLayout}

lemma readIncrement?_packIncrement {s : Sample} (hl : l.IsInteger) (hs : s.IsInteger)
    (rest : List UInt8) :
    l.readIncrement? (l.packIncrement s.increment ++ rest) = some (l.storedIncrement s, rest) := by
  cases hi : l.increment with
  | none => simp [readIncrement?, packIncrement, storedIncrement, hi]
  | some f =>
    have hf : f.IsInteger := hl.increment f hi
    simp [readIncrement?, packIncrement, storedIncrement, hi,
      FieldFormat.unpack?_pack_integer hf hs.increment, FieldFormat.toInt64_stored]

/-- Samples are read back with what follows them left. -/
lemma readSamples?_packSample {samples : List Sample} (hl : l.IsInteger)
    (hs : ∀ s ∈ samples, s.IsInteger) (rest : List UInt8) :
    l.readSamples? samples.length (samples.flatMap l.packSample ++ rest) =
      some (samples.map fun s => (l.storedIncrement s, storedValues l.axes s.values), rest) := by
  induction samples with
  | nil => rfl
  | cons s more ih =>
    have hsample : s.IsInteger := hs s (by simp)
    have hmore := ih fun x hx => hs x (List.mem_cons_of_mem _ hx)
    rw [List.length_cons, List.flatMap_cons, packSample, readSamples?, List.append_assoc,
      List.append_assoc, readIncrement?_packIncrement hl hsample]
    simp [unpackAll?_packAxes hl.axes hsample.values, hmore]

end FrameLayout

/-! ## Times -/

lemma totalIncrement_eq_sum (samples : List (Int64 × List Scalar)) :
    totalIncrement samples = (samples.map (·.1)).sum := by
  have hfold (t : Int64) : samples.foldl (fun t s => t + s.1) t = t + (samples.map (·.1)).sum := by
    induction samples generalizing t with
    | nil => simp
    | cons s rest ih => rw [List.foldl_cons, ih, List.map_cons, List.sum_cons, Int64.add_assoc]
  rw [totalIncrement, hfold, Int64.zero_add]

/-- Counting the increments up from the time before the first sample is counting them down from the time of
the last. -/
lemma stampSamples_sub (id : UInt8) (time : Int64) (samples : List (Int64 × List Scalar)) :
    stampSamples id (time - (samples.map (·.1)).sum) samples =
      samples.mapIdx fun i s => ⟨id, time - ((samples.drop (i + 1)).map (·.1)).sum, s.2⟩ := by
  induction samples with
  | nil => rfl
  | cons s rest ih =>
    have hnext : time - ((s :: rest).map (·.1)).sum + s.1 = time - (rest.map (·.1)).sum := by
      rw [List.map_cons, List.sum_cons]
      grind
    rw [stampSamples, hnext, ih, List.mapIdx_cons]
    rfl

/-! ## Frames -/

/-- The second byte of a frame says how many samples it has: one less than there are. -/
lemma toNat_count {samples : List Sample} (hne : samples ≠ []) (hmax : samples.length ≤ maxSamples) :
    (UInt8.ofNat (samples.length - 1)).toNat + 1 = samples.length := by
  have hpos : 0 < samples.length := List.length_pos_iff.2 hne
  have hsmall : samples.length - 1 < 256 := by
    rw [maxSamples] at hmax
    omega
  rw [UInt8.toNat_ofNat', Nat.mod_eq_of_lt hsmall]
  omega

/-- A frame without increments has one sample, whatever that byte says. -/
lemma FrameLayout.sampleCount_length {l : FrameLayout} {samples : List Sample} (hne : samples ≠ [])
    (hmax : samples.length ≤ maxSamples) (hone : l.increment = none → samples.length = 1) :
    l.sampleCount (UInt8.ofNat (samples.length - 1)) = samples.length := by
  rw [sampleCount]
  by_cases hi : l.increment.isSome
  · rw [if_pos hi, toNat_count hne hmax]
  · rw [if_neg hi, hone (by simpa using hi)]

/-- A frame at the front of the bytes is read as the batch of its samples. -/
theorem RecordReader.batch_frameBytes {layouts : LayoutTable} {id : UInt8} {l : FrameLayout}
    {timestamp : Scalar} {samples : List Sample} (hfind : layouts.find? id = some l)
    (hl : l.IsInteger) (ht : timestamp.isInteger) (hs : ∀ s ∈ samples, s.IsInteger)
    (hne : samples ≠ []) (hmax : samples.length ≤ maxSamples)
    (hone : l.increment = none → samples.length = 1) (rest : List UInt8) :
    RecordReader.batch layouts (l.frameBytes id timestamp samples ++ rest) =
      .ok (some (l.batch id timestamp samples, rest)) := by
  have hcount : l.sampleCount (UInt8.ofNat (samples.length - 1)) = samples.length :=
    FrameLayout.sampleCount_length hne hmax hone
  have hread : l.read? (UInt8.ofNat (samples.length - 1))
      (l.timestamp.pack timestamp ++ (samples.flatMap l.packSample ++ rest)) =
        some (l.storedTime timestamp,
          samples.map fun s => (l.storedIncrement s, storedValues l.axes s.values), rest) := by
    rw [FrameLayout.read?, FieldFormat.unpack?_pack_integer hl.timestamp ht]
    simp [hcount, FrameLayout.readSamples?_packSample hl hs, FieldFormat.toInt64_stored,
      FrameLayout.storedTime]
  rw [FrameLayout.frameBytes, List.append_assoc, List.append_assoc]
  simp only [List.cons_append, List.nil_append, RecordReader.batch, hfind, hread]
  rw [totalIncrement_eq_sum, stampSamples_sub, FrameLayout.batch]
  refine congrArg (fun frames => Except.ok (some (frames, rest))) (List.ext_getElem? fun i => ?_)
  simp [List.map_drop, Function.comp_def]

end FieldStudy
