import Mathlib.Algebra.BigOperators.Group.List.Basic
import Mathlib.Data.Int.ModEq
import Mathlib.Data.List.Basic
import Mathlib.Tactic.Common
import FieldStudy.Proofs.Field.Inverse
import FieldStudy.Proofs.Recording.Truncation

/-!
# Times of samples

A frame stores the time of its last sample and, in front of the values of each sample, the time since the one before.
The reader adds all increments up, takes them from the time of the frame and counts on from there.  So each sample has
the time of the frame less the increments behind it, modulo `2 ^ 64` (`RecordReader.samples_stamped`).  Increments of
at most 32 bits come to less than `2 ^ 40` in one frame; away from both ends of the range no sum overflows with them,
and the equations hold as they stand.
-/

namespace FieldStudy

/-! ## What a frame stores -/

namespace FrameLayout

/-- The time that a frame stores.  `fields` is what stands behind its first two bytes. -/
def timeIn? (l : FrameLayout) (fields : List UInt8) : Option Int64 :=
  (l.timestamp.unpack? fields).map (·.1.toInt64)

/-- The increment in front of the values of a sample. -/
def incrementIn? (l : FrameLayout) (fields : List UInt8) (sample : Nat) : Option Int64 :=
  l.increment.bind fun f =>
    (f.unpack? (fields.drop (l.timestamp.size + sample * l.sampleSize))).map (·.1.toInt64)

end FrameLayout

/-- The times of the samples of a frame in arithmetic modulo `2 ^ 64`: the last one has the time of the frame, each one
that time less the increments of those behind it, and neighbours differ by an increment. -/
structure Stamped (time : Int) (increments : List Int) (frames : List Frame) : Prop where
  length : frames.length = increments.length
  each : ∀ k frame, frames[k]? = some frame →
    frame.timestamp.toInt ≡ time - (increments.drop (k + 1)).sum [ZMOD 2 ^ 64]
  last : frames.getLast?.map (·.timestamp.toInt) = some time
  next : ∀ k frame frame' increment, frames[k]? = some frame → frames[k + 1]? = some frame' →
    increments[k + 1]? = some increment → frame'.timestamp.toInt ≡ frame.timestamp.toInt + increment [ZMOD 2 ^ 64]

/-- An integer that a signed word holds. -/
def FitsWord (v : Int) : Prop := -2 ^ 63 ≤ v ∧ v < 2 ^ 63

/-- The times of the samples as integers.  Nothing that is added up or taken away on the way leaves the range of signed
words: the sums of the increments, their difference from the time of the frame, and what is counted on from there. -/
structure StampedExactly (time : Int) (increments : List Int) (frames : List Frame) : Prop where
  sum : ∀ k, FitsWord (increments.take k).sum
  difference : FitsWord (time - increments.sum)
  counted : ∀ k, FitsWord (time - increments.sum + (increments.take k).sum)
  each : ∀ k frame, frames[k]? = some frame → frame.timestamp.toInt = time - (increments.drop (k + 1)).sum
  next : ∀ k frame frame' increment, frames[k]? = some frame → frames[k + 1]? = some frame' →
    increments[k + 1]? = some increment → frame'.timestamp.toInt = frame.timestamp.toInt + increment

/-! ## Sums of words -/

lemma toInt_add_modEq (a b : Int64) : (a + b).toInt ≡ a.toInt + b.toInt [ZMOD 2 ^ 64] := by
  rw [Int64.toInt_add]
  exact Int.bmod_emod

lemma toInt_sub_modEq (a b : Int64) : (a - b).toInt ≡ a.toInt - b.toInt [ZMOD 2 ^ 64] := by
  rw [Int64.toInt_sub]
  exact Int.bmod_emod

lemma toInt_sum_modEq (words : List Int64) : words.sum.toInt ≡ (words.map Int64.toInt).sum [ZMOD 2 ^ 64] := by
  induction words with
  | nil => rfl
  | cons w rest ih =>
    rw [List.sum_cons, List.map_cons, List.sum_cons]
    exact (toInt_add_modEq w rest.sum).trans (ih.add_left w.toInt)

/-- A word is the integer that it is congruent to, if it can hold that. -/
lemma toInt_eq_of_modEq {w : Int64} {v : Int} (h : w.toInt ≡ v [ZMOD 2 ^ 64]) (hv : FitsWord v) : w.toInt = v := by
  have hlow := w.le_toInt
  have hhigh := w.toInt_lt
  obtain ⟨hvlow, hvhigh⟩ := hv
  have hmod : w.toInt % 2 ^ 64 = v % 2 ^ 64 := h
  omega

/-! ## Narrow increments -/

/-- A field for integers of at most 32 bits holds no more than its bits. -/
lemma toInt64_lt_of_unpack? {f : FieldFormat} {bytes rest : List UInt8} {s : Scalar} (hf : f.IsInteger)
    (hsize : f.size ≤ 4) (h : f.unpack? bytes = some (s, rest)) :
    -2 ^ 32 < s.toInt64.toInt ∧ s.toInt64.toInt < 2 ^ 32 := by
  obtain ⟨hholds, -⟩ := FieldFormat.pack_of_unpack? hf h
  have hhalf := f.half_add_half
  have hwidth : (2 : Int) ^ (8 * f.size) ≤ 2 ^ 32 := by
    exact_mod_cast Nat.pow_le_pow_right (n := 2) (by decide) (show 8 * f.size ≤ 32 by omega)
  cases s with
  | int v =>
    obtain ⟨hkind, hrange⟩ := hholds
    rw [FieldFormat.InRange, hkind] at hrange
    rw [Scalar.toInt64]
    omega
  | uint v =>
    obtain ⟨hkind, hrange⟩ := hholds
    rw [FieldFormat.InRange, hkind] at hrange
    have hword : v.toInt64.toInt = v.toNat := by
      rw [← UInt64.ofNat_toNat (x := v), UInt64.toInt64_ofNat', ← Int64.ofInt_eq_ofNat, UInt64.ofNat_toNat]
      exact Int64.toInt_ofInt_of_le (by omega) (by omega)
    rw [Scalar.toInt64, hword]
    omega
  | float x => exact hholds.elim

/-- What at most 256 increments of at most 32 bits come to. -/
lemma sum_bounds {increments : List Int} (h : ∀ d ∈ increments, -2 ^ 32 < d ∧ d < 2 ^ 32) :
    -(2 ^ 32 * increments.length) ≤ increments.sum ∧ increments.sum ≤ 2 ^ 32 * increments.length := by
  induction increments with
  | nil => simp
  | cons d rest ih =>
    obtain ⟨hlow, hhigh⟩ := h d List.mem_cons_self
    obtain ⟨hlows, hhighs⟩ := ih fun e he => h e (List.mem_cons_of_mem d he)
    rw [List.sum_cons, List.length_cons]
    omega

/-! ## Reading -/

lemma FieldFormat.rest_of_unpack? {f : FieldFormat} {bytes rest : List UInt8} {s : Scalar}
    (h : f.unpack? bytes = some (s, rest)) : rest = bytes.drop f.size := by
  rw [unpack?] at h
  split at h
  · exact (Prod.mk.inj (Option.some.inj h)).2.symm
  · cases h

lemma FieldFormat.rest_of_unpackAll? {fs : List FieldFormat} {bytes rest : List UInt8} {ss : List Scalar}
    (h : unpackAll? fs bytes = some (ss, rest)) : rest = bytes.drop (totalSize fs) := by
  induction fs generalizing bytes ss with
  | nil => exact (Prod.mk.inj (Option.some.inj h)).2.symm
  | cons f fs ih =>
    simp only [unpackAll?, Option.bind_eq_bind, Option.bind_eq_some_iff] at h
    obtain ⟨⟨s, more⟩, hs, ⟨ss', rest'⟩, hss, heq⟩ := h
    obtain ⟨-, rfl⟩ := Prod.mk.inj (Option.some.inj heq)
    rw [ih hss, rest_of_unpack? hs, List.drop_drop, totalSize_cons]

namespace FrameLayout

variable {l : FrameLayout} {f : FieldFormat} {bytes rest : List UInt8} {samples : List (Int64 × List Scalar)}

/-- Each sample that is read comes with the increment in front of its values. -/
lemma increment_of_readSamples? (hf : l.increment = some f) {n : Nat}
    (h : l.readSamples? n bytes = some (samples, rest)) :
    samples.length = n ∧ ∀ k sample, samples[k]? = some sample →
      ∃ s more, f.unpack? (bytes.drop (k * l.sampleSize)) = some (s, more) ∧ s.toInt64 = sample.1 := by
  induction n generalizing bytes samples with
  | zero =>
    obtain ⟨rfl, -⟩ := Prod.mk.inj (Option.some.inj h)
    exact ⟨rfl, nofun⟩
  | succ n ih =>
    simp only [readSamples?, Option.bind_eq_bind, Option.bind_eq_some_iff] at h
    obtain ⟨⟨i, more⟩, hi, ⟨vs, more'⟩, hvs, ⟨later, rest'⟩, hlater, heq⟩ := h
    obtain ⟨rfl, rfl⟩ := Prod.mk.inj (Option.some.inj heq)
    rw [readIncrement?, hf] at hi
    obtain ⟨⟨s, more''⟩, hs, hpair⟩ := Option.map_eq_some_iff.1 hi
    obtain ⟨rfl, rfl⟩ := Prod.mk.inj hpair
    obtain ⟨hlength, heach⟩ := ih hlater
    refine ⟨by rw [List.length_cons, hlength], fun k sample hk => ?_⟩
    cases k with
    | zero =>
      obtain rfl := Option.some.inj hk
      exact ⟨s, more'', by rw [Nat.zero_mul, List.drop_zero, hs], rfl⟩
    | succ k =>
      obtain ⟨s', rest'', hs', hsame⟩ := heach k sample hk
      have hsize : l.sampleSize = f.size + FieldFormat.totalSize l.axes := by
        simp [sampleSize, incrementSize, axesSize, hf]
      refine ⟨s', rest'', ?_, hsame⟩
      rw [FieldFormat.rest_of_unpackAll? hvs, FieldFormat.rest_of_unpack? hs, List.drop_drop, List.drop_drop,
        ← Nat.add_assoc, ← hsize, Nat.add_comm] at hs'
      rw [Nat.succ_mul, hs']

end FrameLayout

/-! ## Times -/

lemma drop_succ {increments : List Int} {k : Nat} {increment : Int} (h : increments[k]? = some increment) :
    increments.drop k = increment :: increments.drop (k + 1) := by
  obtain ⟨hk, rfl⟩ := List.getElem?_eq_some_iff.mp h
  exact List.drop_eq_getElem_cons hk

lemma stamped (id : UInt8) (time : Int64) {samples : List (Int64 × List Scalar)} (hne : samples ≠ []) :
    Stamped time.toInt ((samples.map (·.1)).map Int64.toInt)
      (stampSamples id (time - totalIncrement samples) samples) := by
  rw [totalIncrement_eq_sum, stampSamples_sub]
  have heach : ∀ k frame, (samples.mapIdx fun i s =>
      (⟨id, time - ((samples.drop (i + 1)).map (·.1)).sum, s.2⟩ : Frame))[k]? = some frame →
      frame.timestamp = time - ((samples.drop (k + 1)).map (·.1)).sum := by
    intro k frame hk
    rw [List.getElem?_mapIdx] at hk
    obtain ⟨s, -, rfl⟩ := Option.map_eq_some_iff.1 hk
    rfl
  have hmod : ∀ k frame, (samples.mapIdx fun i s =>
      (⟨id, time - ((samples.drop (i + 1)).map (·.1)).sum, s.2⟩ : Frame))[k]? = some frame →
      frame.timestamp.toInt ≡
        time.toInt - ((((samples.map (·.1)).map Int64.toInt)).drop (k + 1)).sum [ZMOD 2 ^ 64] := by
    intro k frame hk
    rw [heach k frame hk, ← List.map_drop, ← List.map_drop]
    exact (toInt_sub_modEq _ _).trans ((toInt_sum_modEq _).sub_left _)
  refine ⟨by simp, hmod, ?_, fun k frame frame' increment hk hk' hincrement => ?_⟩
  · have hpos := List.length_pos_iff.mpr hne
    have hlast := List.getElem?_eq_getElem (l := samples) (i := samples.length - 1) (by omega)
    have hnone : samples.drop (samples.length - 1 + 1) = [] := List.drop_eq_nil_of_le (by omega)
    rw [List.getLast?_eq_getElem?, List.length_mapIdx, List.getElem?_mapIdx, hlast, hnone]
    simp
  · have hfirst := hmod k frame hk
    have hsecond := hmod (k + 1) frame' hk'
    rw [drop_succ hincrement, List.sum_cons] at hfirst
    generalize (((samples.map (·.1)).map Int64.toInt).drop (k + 1 + 1)).sum = behind at hfirst hsecond
    have hcount : time.toInt - (increment + behind) + increment = time.toInt - behind := by omega
    exact hsecond.trans (hcount ▸ hfirst.add_right increment).symm

lemma Stamped.exactly {time : Int64} {increments : List Int} {frames : List Frame}
    (h : Stamped time.toInt increments frames) (hlength : increments.length ≤ maxSamples)
    (hnarrow : ∀ d ∈ increments, -2 ^ 32 < d ∧ d < 2 ^ 32) (hlow : -2 ^ 63 + 2 ^ 40 ≤ time.toInt)
    (hhigh : time.toInt < 2 ^ 63 - 2 ^ 40) : StampedExactly time.toInt increments frames := by
  -- Whatever part of the increments is added up comes to less than `2 ^ 40`.
  have hpart {part : List Int} (hpart : part.Sublist increments) : -2 ^ 40 ≤ part.sum ∧ part.sum ≤ 2 ^ 40 := by
    have hbounds := sum_bounds fun d hd => hnarrow d (hpart.subset hd)
    have hle := hpart.length_le
    rw [maxSamples] at hlength
    omega
  have hcount (k : Nat) :
      time.toInt - increments.sum + (increments.take k).sum = time.toInt - (increments.drop k).sum := by
    have hsplit := List.sum_take_add_sum_drop increments k
    omega
  have heach :
      ∀ k frame, frames[k]? = some frame → frame.timestamp.toInt = time.toInt - (increments.drop (k + 1)).sum := by
    intro k frame hk
    have hdropped := hpart (List.drop_sublist (k + 1) increments)
    exact toInt_eq_of_modEq (h.each k frame hk) ⟨by omega, by omega⟩
  refine ⟨fun k => ?_, ?_, fun k => ?_, heach, fun k frame frame' increment hk hk' hincrement => ?_⟩
  · have htaken := hpart (List.take_sublist k increments)
    exact ⟨by omega, by omega⟩
  · have hall := hpart (List.Sublist.refl increments)
    exact ⟨by omega, by omega⟩
  · have hdropped := hpart (List.drop_sublist k increments)
    rw [hcount]
    exact ⟨by omega, by omega⟩
  · have hfirst := heach k frame hk
    rw [drop_succ hincrement, List.sum_cons] at hfirst
    have hsecond := heach (k + 1) frame' hk'
    omega

/-! ## Frames -/

namespace RecordReader

/-- A frame is read as soon as all of it is there. -/
lemma readBatch_isSome_iff {r : RecordReader} {id count : UInt8} {fields : List UInt8} {l : FrameLayout}
    (hrest : r.rest = id :: count :: fields) (hl : r.layouts.find? id = some l) :
    (∃ found, r.readBatch = .ok (some found)) ↔
      l.timestamp.size + l.sampleCount count * l.sampleSize ≤ fields.length := by
  have hlength : r.layouts.frameLength? r.rest = some (l.frameLength count) :=
    LayoutTable.frameLength?_eq_some_iff.2 ⟨id, count, fields, l, hrest, hl, rfl⟩
  have hsize : r.rest.length = fields.length + 2 := by rw [hrest]; rfl
  rw [FrameLayout.frameLength_eq] at hlength
  constructor
  · rintro ⟨⟨frames, r'⟩, hread⟩
    obtain ⟨n, hn, hle, -⟩ := readBatch_takes hread
    obtain rfl := Option.some.inj (hlength.symm.trans hn)
    omega
  · intro hfields
    have hframe : r.layouts.IsFrame (r.rest.take (2 + (l.timestamp.size + l.sampleCount count * l.sampleSize))) := by
      rw [LayoutTable.IsFrame, LayoutTable.frameLength?_take hlength, List.length_take_of_le (by omega)]
    obtain ⟨found, hfound⟩ := exists_batch hframe
    have hread := hfound (r.rest.drop (2 + (l.timestamp.size + l.sampleCount count * l.sampleSize)))
    rw [List.take_append_drop] at hread
    exact ⟨_, readBatch_eq.2 ⟨_, hread, rfl⟩⟩

/-- A frame of several samples is read once all of it is there, and then each sample has the time of the frame less the
increments behind it, modulo `2 ^ 64`.  With integer increments of at most 32 bits and a time that is `2 ^ 40` away from
both ends of the range nothing overflows, and these equations hold for the integers themselves. -/
theorem samples_stamped {r : RecordReader} {id count : UInt8} {fields : List UInt8} {l : FrameLayout} {f : FieldFormat}
    (hrest : r.rest = id :: count :: fields) (hl : r.layouts.find? id = some l) (hf : l.increment = some f) :
    ((∃ found, r.readBatch = .ok (some found)) ↔
      l.timestamp.size + (count.toNat + 1) * l.sampleSize ≤ fields.length) ∧
    ∀ frames r', r.readBatch = .ok (some (frames, r')) →
      ∃ (time : Int64) (increments : List Int64), l.timeIn? fields = some time ∧
        increments.length = count.toNat + 1 ∧
        (∀ k increment, increments[k]? = some increment → l.incrementIn? fields k = some increment) ∧
        Stamped time.toInt (increments.map Int64.toInt) frames ∧
        (f.IsInteger → f.size ≤ 4 → -2 ^ 63 + 2 ^ 40 ≤ time.toInt → time.toInt < 2 ^ 63 - 2 ^ 40 →
          StampedExactly time.toInt (increments.map Int64.toInt) frames) := by
  have hcount : l.sampleCount count = count.toNat + 1 := by simp [FrameLayout.sampleCount, hf]
  refine ⟨hcount ▸ readBatch_isSome_iff hrest hl, fun frames r' hread => ?_⟩
  obtain ⟨rest, hbatch, rfl⟩ := readBatch_eq.1 hread
  rw [hrest, batch, hl] at hbatch
  dsimp only at hbatch
  split at hbatch
  · cases hbatch
  · next time samples rest' hfields =>
    obtain ⟨rfl, rfl⟩ := Prod.mk.inj (Option.some.inj (Except.ok.inj hbatch))
    simp only [FrameLayout.read?, Option.bind_eq_bind, Option.bind_eq_some_iff] at hfields
    obtain ⟨⟨t, more⟩, htime, ⟨found, rest⟩, hsamples, heq⟩ := hfields
    obtain ⟨rfl, hpair⟩ := Prod.mk.inj (Option.some.inj heq)
    obtain ⟨rfl, rfl⟩ := Prod.mk.inj hpair
    obtain ⟨hlength, heach⟩ := FrameLayout.increment_of_readSamples? hf hsamples
    have hincrements : ∀ k increment, (found.map (·.1))[k]? = some increment → ∃ s rest,
        f.unpack? (fields.drop (l.timestamp.size + k * l.sampleSize)) = some (s, rest) ∧ s.toInt64 = increment := by
      intro k increment hk
      rw [List.getElem?_map] at hk
      obtain ⟨sample, hsample, rfl⟩ := Option.map_eq_some_iff.1 hk
      obtain ⟨s, rest, hs, hsame⟩ := heach k sample hsample
      rw [FieldFormat.rest_of_unpack? htime, List.drop_drop] at hs
      exact ⟨s, rest, hs, hsame⟩
    have hne : found ≠ [] := List.ne_nil_of_length_pos (by omega)
    have hstamped := stamped id t.toInt64 hne
    refine ⟨t.toInt64, found.map (·.1), by rw [FrameLayout.timeIn?, htime]; rfl, by rw [List.length_map, hlength, hcount],
      fun k increment hk => ?_, hstamped, fun hinteger hsize hlow hhigh => hstamped.exactly ?_ ?_ hlow hhigh⟩
    · obtain ⟨s, rest, hs, rfl⟩ := hincrements k increment hk
      simp [FrameLayout.incrementIn?, hf, hs]
    · have hbyte := count.toNat_lt
      rw [List.length_map, List.length_map, hlength, hcount, maxSamples]
      omega
    · intro d hd
      obtain ⟨increment, hmem, rfl⟩ := List.mem_map.1 hd
      obtain ⟨k, hk⟩ := List.mem_iff_getElem?.1 hmem
      obtain ⟨s, rest, hs, rfl⟩ := hincrements k increment hk
      exact toInt64_lt_of_unpack? hinteger hsize hs

/-- A frame of three samples whose increments go both ways: the time of the frame is 1000. -/
theorem samples_stamped_threeSamples :
    let l : FrameLayout := ⟨⟨.little, .uint32⟩, some ⟨.big, .int16⟩, [⟨.little, .uint8⟩]⟩
    let fields : List UInt8 := [0xe8, 0x03, 0, 0, 0, 10, 7, 0xff, 0xfb, 8, 0, 20, 9]
    let r : RecordReader := ⟨{}, [(3, l)], 3 :: 2 :: fields⟩
    ∃ frames r', r.readBatch = .ok (some (frames, r')) ∧ frames.map (·.timestamp.toInt) = [985, 980, 1000] ∧
      Stamped 1000 [10, -5, 20] frames ∧ StampedExactly 1000 [10, -5, 20] frames := by
  intro l fields r
  obtain ⟨hread, hstamped⟩ := @samples_stamped r 3 2 fields l ⟨.big, .int16⟩ rfl rfl rfl
  obtain ⟨⟨frames, r'⟩, hfound⟩ := hread.2 (by decide)
  obtain ⟨time, increments, htime, hlength, heach, hmod, hexact⟩ := hstamped frames r' hfound
  obtain rfl : time = 1000 := Option.some.inj (htime.symm.trans (by decide))
  match increments, hlength with
  | [a, b, c], _ =>
    obtain rfl : a = 10 := Option.some.inj ((heach 0 a rfl).symm.trans (by decide))
    obtain rfl : b = -5 := Option.some.inj ((heach 1 b rfl).symm.trans (by decide))
    obtain rfl : c = 20 := Option.some.inj ((heach 2 c rfl).symm.trans (by decide))
    have hframes : (r.readBatch.map fun found => found.map fun x => x.1.map (·.timestamp.toInt)) =
        .ok (some [985, 980, 1000]) := by decide
    rw [hfound] at hframes
    exact ⟨frames, r', hfound, Option.some.inj (Except.ok.inj hframes), hmod,
      hexact (by decide) (by decide) (by decide) (by decide)⟩

end RecordReader

end FieldStudy
