import Mathlib.Data.List.Basic
import Mathlib.Tactic.Common
import FieldStudy.Device.Basic
import FieldStudy.Proofs.Number.Binary
import FieldStudy.Recording.Writer

/-!
# Frames of a phone

A recording of the motion sensors of a phone holds frames of 32-bit floats.  `PhoneSample.bytes` spells such a frame
out byte by byte, and a writer of phone frames writes exactly these bytes (`PhoneSample.single_layout`).
-/

namespace FieldStudy

/-- A sample of a motion sensor, with the id of its frames. -/
structure PhoneSample where
  frame : UInt8
  timestamp : UInt64
  values : List Single
deriving DecidableEq, Repr

namespace PhoneSample

/-- How many values a frame holds: sensors without calibration report a bias as well. -/
def width (x : PhoneSample) : Nat :=
  if x.frame = Phone.uncalAccId ∨ x.frame = Phone.uncalGyrId then 6 else 3

/-- The bytes of the sample as a frame: the id, a count of zero, the timestamp and the values, least significant
byte first.  Values that are missing are zero, and those beyond the width are left out. -/
def bytes (x : PhoneSample) : List UInt8 :=
  [x.frame, 0] ++ littleBytes 8 x.timestamp.toNat ++
    (List.range x.width).flatMap fun i => littleBytes 4 ((x.values[i]?).getD ⟨0⟩).quiet.bits.toNat

end PhoneSample

namespace Phone

/-- The layouts of the frames of a phone with both sensors. -/
def layouts : LayoutTable :=
  [(gyrId, 3), (uncalGyrId, 6), (accId, 3), (uncalAccId, 6)].map fun (id, width) =>
    (id, ⟨⟨.little, .uint64⟩, none, List.replicate width ⟨.little, .float32⟩⟩)

lemma layouts_descriptor : LayoutTable.ofDescriptor (descriptor true true) = .ok layouts := rfl

end Phone

namespace PhoneSample

/-- The values of a frame one by one. -/
lemma packAxes_replicate (n : Nat) (values : List Single) :
    FrameLayout.packAxes (List.replicate n ⟨.little, .float32⟩) (values.map fun v => .float v.toDouble) =
      (List.range n).flatMap fun i => littleBytes 4 ((values[i]?).getD ⟨0⟩).quiet.bits.toNat := by
  have hzero : FieldFormat.pack ⟨.little, .float32⟩ .zero = littleBytes 4 (Single.quiet ⟨0⟩).bits.toNat := by decide
  have hvalue (v : Single) : FieldFormat.pack ⟨.little, .float32⟩ (.float v.toDouble) =
      littleBytes 4 v.quiet.bits.toNat := by
    rw [← Single.toSingle_toDouble]
    rfl
  induction n generalizing values with
  | zero => rfl
  | succ n ih =>
    rw [List.replicate_succ, List.range_succ_eq_map, List.flatMap_cons, List.flatMap_map]
    cases values with
    | nil =>
      have hrest := ih []
      rw [List.map_nil] at hrest ⊢
      rw [FrameLayout.packAxes, hrest, hzero]
      simp
    | cons v rest =>
      rw [List.map_cons, FrameLayout.packAxes, ih rest, hvalue v]
      simp

/-- A writer of phone frames writes a sample as its bytes. -/
lemma single_layout {frame : UInt8} {sensor : String} (hframe : SensorType.frameId? sensor = some frame)
    (timestamp : UInt64) (values : List Single) :
    ∃ layout, Phone.layouts.get frame = .ok layout ∧
      layout.single frame (.uint timestamp) (values.map fun v => .float v.toDouble) =
        (⟨frame, timestamp, values⟩ : PhoneSample).bytes := by
  have hsingle (width : Nat) (hwidth : (⟨frame, timestamp, values⟩ : PhoneSample).width = width) :
      FrameLayout.single ⟨⟨.little, .uint64⟩, none, List.replicate width ⟨.little, .float32⟩⟩ frame
        (.uint timestamp) (values.map fun v => .float v.toDouble) =
        (⟨frame, timestamp, values⟩ : PhoneSample).bytes := by
    rw [bytes, hwidth, ← packAxes_replicate]
    rfl
  unfold SensorType.frameId? at hframe
  split at hframe
  · obtain rfl := Option.some.inj hframe
    exact ⟨_, rfl, hsingle 3 rfl⟩
  · split at hframe
    · obtain rfl := Option.some.inj hframe
      exact ⟨_, rfl, hsingle 3 rfl⟩
    · split at hframe
      · obtain rfl := Option.some.inj hframe
        exact ⟨_, rfl, hsingle 6 rfl⟩
      · split at hframe
        · obtain rfl := Option.some.inj hframe
          exact ⟨_, rfl, hsingle 6 rfl⟩
        · cases hframe

end PhoneSample

end FieldStudy
