import Mathlib.Data.List.Basic
import Mathlib.Data.List.Forall2
import Mathlib.Tactic.Common
import FieldStudy.Proofs.Field.Inverse
import FieldStudy.Proofs.Recording.RoundTrip

/-!
# Truncated recordings

The first two bytes of a frame say how long it is (`LayoutTable.frameLength?`), and a successful read takes
exactly these bytes.  So a recording that ends early is read as the batches of the frames that it still holds
whole; behind them it is at its end if it was cut between two frames, and data is missing if it was cut within
one.  A recording that ends within its header has no reader (`RecordReader.reads_truncated`).
-/

namespace FieldStudy

/-! ## Lengths -/

namespace FrameLayout

/-- The length of a frame whose second byte is `count`. -/
def frameLength (l : FrameLayout) (count : UInt8) : Nat :=
  match l.increment with
  | none => 2 + l.timestamp.size + FieldFormat.totalSize l.axes
  | some f => 2 + l.timestamp.size + (count.toNat + 1) * (f.size + FieldFormat.totalSize l.axes)

lemma frameLength_eq (l : FrameLayout) (count : UInt8) :
    l.frameLength count = 2 + (l.timestamp.size + l.sampleCount count * l.sampleSize) := by
  cases hi : l.increment with
  | none => simp [frameLength, sampleCount, sampleSize, incrementSize, axesSize, hi, Nat.add_assoc]
  | some f => simp [frameLength, sampleCount, sampleSize, incrementSize, axesSize, hi, Nat.add_assoc]

end FrameLayout

namespace LayoutTable

/-- The length of the frame that begins with these bytes, if its id is known. -/
def frameLength? (t : LayoutTable) : List UInt8 → Option Nat
  | id :: count :: _ => (t.find? id).map (·.frameLength count)
  | _ => none

/-- The bytes are one complete frame of a known id. -/
def IsFrame (t : LayoutTable) (bytes : List UInt8) : Prop := t.frameLength? bytes = some bytes.length

instance IsFrame.decidable (t : LayoutTable) (bytes : List UInt8) : Decidable (t.IsFrame bytes) :=
  inferInstanceAs (Decidable (_ = _))

variable {t : LayoutTable} {bytes : List UInt8}

lemma frameLength?_eq_some_iff {n : Nat} :
    t.frameLength? bytes = some n ↔
      ∃ id count fields l, bytes = id :: count :: fields ∧ t.find? id = some l ∧ l.frameLength count = n := by
  constructor
  · intro h
    match bytes, h with
    | id :: count :: fields, h =>
      obtain ⟨l, hl, hn⟩ := Option.map_eq_some_iff.1 h
      exact ⟨id, count, fields, l, rfl, hl, hn⟩
  · rintro ⟨id, count, fields, l, rfl, hl, hn⟩
    exact Option.map_eq_some_iff.2 ⟨l, hl, hn⟩

lemma two_le_of_frameLength? {n : Nat} (h : t.frameLength? bytes = some n) : 2 ≤ n := by
  obtain ⟨id, count, fields, l, rfl, -, rfl⟩ := frameLength?_eq_some_iff.1 h
  rw [FrameLayout.frameLength_eq]
  exact Nat.le_add_right 2 _

lemma frameLength?_take {n : Nat} (h : t.frameLength? bytes = some n) :
    t.frameLength? (bytes.take n) = some n := by
  obtain ⟨id, count, fields, l, rfl, hl, hn⟩ := frameLength?_eq_some_iff.1 h
  obtain ⟨m, rfl⟩ := Nat.exists_eq_add_of_le' (two_le_of_frameLength? h)
  exact frameLength?_eq_some_iff.2 ⟨id, count, fields.take m, l, rfl, hl, hn⟩

end LayoutTable

/-! ## Frames that are there are read -/

namespace FrameLayout

variable {l : FrameLayout} {fields : List UInt8}

lemma exists_readIncrement? (h : fields.length = l.incrementSize) :
    ∃ i, ∀ more, l.readIncrement? (fields ++ more) = some (i, more) := by
  cases hi : l.increment with
  | none =>
    have hnil : fields = [] := List.length_eq_zero_iff.1 (by simpa [incrementSize, hi] using h)
    exact ⟨0, fun more => by simp [readIncrement?, hi, hnil]⟩
  | some f =>
    obtain ⟨s, hs⟩ := FieldFormat.exists_unpack? (f := f) (by simpa [incrementSize, hi] using h)
    exact ⟨s.toInt64, fun more => by simp [readIncrement?, hi, hs]⟩

lemma exists_readSamples? {n : Nat} (h : fields.length = n * l.sampleSize) :
    ∃ ss, ∀ more, l.readSamples? n (fields ++ more) = some (ss, more) := by
  induction n generalizing fields with
  | zero => exact ⟨[], fun more => by simp [List.length_eq_zero_iff.1 (h.trans (Nat.zero_mul _)), readSamples?]⟩
  | succ n ih =>
    obtain ⟨sample, rest, rfl, hsample, hrest⟩ :=
      exists_append_of_length (h.trans ((Nat.succ_mul _ _).trans (Nat.add_comm _ _)))
    obtain ⟨increment, values, rfl, hincrement, hvalues⟩ := exists_append_of_length hsample
    obtain ⟨i, hi⟩ := exists_readIncrement? hincrement
    obtain ⟨vs, hvs⟩ := FieldFormat.exists_unpackAll? hvalues
    obtain ⟨ss, hss⟩ := ih hrest
    exact ⟨(i, vs) :: ss, fun more => by simp [readSamples?, hi, hvs, hss]⟩

lemma exists_read? {count : UInt8}
    (h : fields.length = l.timestamp.size + l.sampleCount count * l.sampleSize) :
    ∃ time ss, ∀ more, l.read? count (fields ++ more) = some (time, ss, more) := by
  obtain ⟨timestamp, samples, rfl, htimestamp, hsamples⟩ := exists_append_of_length h
  obtain ⟨s, hs⟩ := FieldFormat.exists_unpack? htimestamp
  obtain ⟨ss, hss⟩ := exists_readSamples? hsamples
  exact ⟨s.toInt64, ss, fun more => by simp [read?, hs, hss]⟩

end FrameLayout

/-! ## One read -/

namespace RecordReader

variable {layouts : LayoutTable} {bytes frame : List UInt8}

/-- A complete frame is read, whatever follows it. -/
lemma exists_batch (h : layouts.IsFrame frame) :
    ∃ found, ∀ more, batch layouts (frame ++ more) = .ok (some (found, more)) := by
  obtain ⟨id, count, fields, l, rfl, hl, hlength⟩ := LayoutTable.frameLength?_eq_some_iff.1 h
  rw [FrameLayout.frameLength_eq, List.length_cons, List.length_cons] at hlength
  obtain ⟨time, samples, hread⟩ : ∃ time ss, ∀ more, l.read? count (fields ++ more) = some (time, ss, more) :=
    FrameLayout.exists_read? (by omega)
  exact ⟨_, fun more => by rw [List.cons_append, List.cons_append, batch, hl]; simp only [hread]; rfl⟩

/-- What is read begins with the two bytes of a frame of a known id. -/
lemma batch_cases {rest : List UInt8} {found : List Frame} (h : batch layouts bytes = .ok (some (found, rest))) :
    ∃ id count fields l time samples, bytes = id :: count :: fields ∧ layouts.find? id = some l ∧
      l.read? count fields = some (time, samples, rest) ∧
      found = stampSamples id (time - totalIncrement samples) samples := by
  match bytes, h with
  | id :: count :: fields, h =>
    rw [batch] at h
    split at h
    · cases h
    · next l hl =>
      split at h
      · cases h
      · next time samples rest' hread =>
        obtain ⟨rfl, rfl⟩ : stampSamples id (time - totalIncrement samples) samples = found ∧ rest' = rest := by
          simpa using h
        exact ⟨id, count, fields, l, time, samples, rfl, hl, hread, rfl⟩

/-- A successful read takes the bytes of one frame. -/
lemma frameLength?_of_batch {rest : List UInt8} {found : List Frame}
    (h : batch layouts bytes = .ok (some (found, rest))) :
    ∃ n, layouts.frameLength? bytes = some n ∧ n ≤ bytes.length ∧ rest = bytes.drop n := by
  obtain ⟨n, hn, hlength⟩ : ∃ n, layouts.frameLength? bytes = some n ∧ bytes.length = n + rest.length := by
    obtain ⟨id, count, fields, l, time, samples, rfl, hl, hread, -⟩ := batch_cases h
    refine ⟨_, LayoutTable.frameLength?_eq_some_iff.2 ⟨id, count, fields, l, rfl, hl, rfl⟩, ?_⟩
    rw [FrameLayout.frameLength_eq, List.length_cons, List.length_cons, FrameLayout.length_of_read? hread]
    omega
  have hle : n ≤ bytes.length := by omega
  have hframe : layouts.IsFrame (bytes.take n) := by
    rw [LayoutTable.IsFrame, List.length_take_of_le hle]
    exact LayoutTable.frameLength?_take hn
  obtain ⟨found', hfound'⟩ := exists_batch hframe
  have hsame := hfound' (bytes.drop n)
  rw [List.take_append_drop, h] at hsame
  simp only [Except.ok.injEq, Option.some.injEq, Prod.mk.injEq] at hsame
  exact ⟨n, hn, hle, hsame.2⟩

/-- Of a frame that is cut short data is missing. -/
lemma batch_take (h : layouts.IsFrame frame) {n : Nat} (hpos : 0 < n) (hn : n < frame.length) :
    batch layouts (frame.take n) = .error (.io .endOfData) := by
  obtain ⟨id, count, fields, l, rfl, hl, hlength⟩ := LayoutTable.frameLength?_eq_some_iff.1 h
  match n, hpos with
  | 1, _ => rfl
  | n + 2, _ =>
    -- had the cut frame been read, it would hold every byte of the frame
    have hread : l.read? count (fields.take n) = none := by
      refine Option.eq_none_iff_forall_ne_some.2 fun ⟨time, samples, rest⟩ hread => ?_
      have hneeded := FrameLayout.length_of_read? hread
      rw [FrameLayout.frameLength_eq] at hlength
      simp only [List.length_take, List.length_cons] at hneeded hlength hn
      omega
    rw [List.take_succ_cons, List.take_succ_cons, batch, hl]
    simp only [hread]

lemma batches_of_end (h : batch layouts bytes = .ok none) : batches layouts bytes = ([], none) := by
  rw [batches.eq_def]
  split
  · next h' => simp [h] at h'
  · rfl
  · next h' => simp [h] at h'

lemma batches_of_error {e : RecordingError} (h : batch layouts bytes = .error e) :
    batches layouts bytes = ([], some e) := by
  rw [batches.eq_def]
  split
  · next h' => simpa [h] using h'.symm
  · next h' => simp [h] at h'
  · next h' => simp [h] at h'

/-! ## Several reads -/

/-- From one reader batches are read one after another, and another reader is left. -/
inductive Reads : RecordReader → List (List Frame) → RecordReader → Prop
  | nil (r : RecordReader) : Reads r [] r
  | cons {r r₁ r₂ : RecordReader} {frames : List Frame} {found : List (List Frame)}
      (first : r.readBatch = .ok (some (frames, r₁))) (more : Reads r₁ found r₂) :
      Reads r (frames :: found) r₂

lemma readAll_of_end {r : RecordReader} (h : r.readBatches.2 = none) :
    r.readAll = .ok r.readBatches.1.flatten := by
  rw [readAll]
  split
  · next hfound => rw [hfound]
  · next hfound => simp [hfound] at h

lemma readAll_of_failure {r : RecordReader} {e : RecordingError} (h : r.readBatches.2 = some e) :
    r.readAll = .error e := by
  rw [readAll]
  split
  · next hfound => simp [hfound] at h
  · next hfound =>
    obtain rfl : _ = e := by simpa [hfound] using h
    rfl

/-- Each frame of a body of frames is read as it is read alone. -/
lemma batches_flatten {frames : List (List UInt8)} (h : ∀ f ∈ frames, layouts.IsFrame f) :
    List.Forall₂ (fun f found => batch layouts f = .ok (some (found, []))) frames
      (batches layouts frames.flatten).1 ∧ (batches layouts frames.flatten).2 = none := by
  induction frames with
  | nil => rw [List.flatten_nil, batches_nil]; exact ⟨.nil, rfl⟩
  | cons f fs ih =>
    obtain ⟨found, hfound⟩ := exists_batch (h f (by simp))
    obtain ⟨hall, hend⟩ := ih fun g hg => h g (List.mem_cons_of_mem f hg)
    have halone := hfound []
    rw [List.append_nil] at halone
    rw [List.flatten_cons, batches_of_batch (hfound _)]
    exact ⟨.cons halone hall, hend⟩

/-- The first bytes of a body of frames are read as the frames among them; the reads end well if the last of
these is whole. -/
lemma batches_take {frames : List (List UInt8)} (h : ∀ f ∈ frames, layouts.IsFrame f) {cut : Nat}
    (hcut : cut ≤ frames.flatten.length) :
    ∃ k ≤ frames.length, (∀ j ≤ frames.length, (frames.take j).flatten.length ≤ cut ↔ j ≤ k) ∧
      batches layouts (frames.flatten.take cut) =
        ((batches layouts frames.flatten).1.take k,
          if (frames.take k).flatten.length = cut then none else some (.io .endOfData)) := by
  induction frames generalizing cut with
  | nil => exact ⟨0, le_rfl, by simp, by simp at hcut; simp [hcut, batches_nil]⟩
  | cons f fs ih =>
    obtain ⟨found, hfound⟩ := exists_batch (h f (by simp))
    by_cases hf : f.length ≤ cut
    · obtain ⟨k, hk, hwithin, hread⟩ := ih (fun g hg => h g (List.mem_cons_of_mem f hg))
        (show cut - f.length ≤ fs.flatten.length by
          rw [List.flatten_cons, List.length_append] at hcut
          omega)
      refine ⟨k + 1, by simpa using hk, fun j hj => ?_, ?_⟩
      · cases j with
        | zero => simp
        | succ j =>
          have hj' := hwithin j (by simpa using hj)
          simp only [List.take_succ_cons, List.flatten_cons, List.length_append, Nat.add_le_add_iff_right]
          omega
      · have htake : (f :: fs).flatten.take cut = f ++ fs.flatten.take (cut - f.length) := by
          rw [List.flatten_cons, List.take_append, List.take_of_length_le hf]
        have hiff : f.length + (fs.take k).flatten.length = cut ↔
            (fs.take k).flatten.length = cut - f.length := by omega
        rw [htake, batches_of_batch (hfound _), hread, List.flatten_cons, batches_of_batch (hfound _)]
        simp only [List.take_succ_cons, List.flatten_cons, List.length_append, hiff]
    · refine ⟨0, Nat.zero_le _, fun j hj => ?_, ?_⟩
      · cases j with
        | zero => simp
        | succ j =>
          simp only [List.take_succ_cons, List.flatten_cons, List.length_append]
          omega
      · have htake : (f :: fs).flatten.take cut = f.take cut := by
          rw [List.flatten_cons, List.take_append_of_le_length (by omega)]
        rw [htake]
        by_cases hzero : cut = 0
        · simp [hzero, batches_nil]
        · rw [batches_of_error (batch_take (h f (by simp)) (by omega) (by omega))]
          simp [Ne.symm hzero]

lemma readBatch_eq {r r' : RecordReader} {frames : List Frame} :
    r.readBatch = .ok (some (frames, r')) ↔
      ∃ rest, batch r.layouts r.rest = .ok (some (frames, rest)) ∧ r' = { r with rest } := by
  rw [readBatch]
  cases batch r.layouts r.rest with
  | error e => simp [Except.map]
  | ok found =>
    cases found with
    | none => simp [Except.map]
    | some found =>
      obtain ⟨frames', rest⟩ := found
      simp [Except.map, eq_comm]

/-- A read takes the bytes of one frame from the reader and leaves all else of it. -/
lemma readBatch_takes {r r' : RecordReader} {frames : List Frame}
    (h : r.readBatch = .ok (some (frames, r'))) :
    ∃ n, r.layouts.frameLength? r.rest = some n ∧ n ≤ r.rest.length ∧
      r' = { r with rest := r.rest.drop n } := by
  obtain ⟨rest, hbatch, rfl⟩ := readBatch_eq.1 h
  obtain ⟨n, hn, hle, rfl⟩ := frameLength?_of_batch hbatch
  exact ⟨n, hn, hle, rfl⟩

lemma Reads.eq_with {r r' : RecordReader} {found : List (List Frame)} (h : Reads r found r') :
    r' = { r with rest := r'.rest } := by
  induction h with
  | nil r => rfl
  | cons first _ ih =>
    obtain ⟨n, -, -, rfl⟩ := readBatch_takes first
    exact ih

/-- Each of the reads takes the two bytes that begin a frame. -/
lemma Reads.bounded {r r' : RecordReader} {found : List (List Frame)} (h : Reads r found r') :
    2 * found.length + r'.rest.length ≤ r.rest.length := by
  induction h with
  | nil r => simp
  | cons first _ ih =>
    obtain ⟨n, hn, hle, rfl⟩ := readBatch_takes first
    have htwo := LayoutTable.two_le_of_frameLength? hn
    simp only [List.length_cons, List.length_drop] at ih ⊢
    omega

/-- Reading every batch comes to an end of the recording or to a failure. -/
lemma reads_readBatches (r : RecordReader) :
    ∃ r', Reads r r.readBatches.1 r' ∧
      (r'.readBatch = .ok none ∧ r.readBatches.2 = none ∨
        ∃ e, r'.readBatch = .error e ∧ r.readBatches.2 = some e) := by
  obtain ⟨descriptor, layouts, bytes⟩ := r
  simp only [readBatches]
  induction hlength : bytes.length using Nat.strong_induction_on generalizing bytes with
  | _ n ih =>
    cases hbatch : batch layouts bytes with
    | error e =>
      rw [batches_of_error hbatch]
      exact ⟨_, .nil _, .inr ⟨e, by rw [readBatch, hbatch]; rfl, rfl⟩⟩
    | ok found =>
      cases found with
      | none =>
        rw [batches_of_end hbatch]
        exact ⟨_, .nil _, .inl ⟨by rw [readBatch, hbatch]; rfl, rfl⟩⟩
      | some found =>
        obtain ⟨frames, rest⟩ := found
        obtain ⟨r', hreads, hend⟩ := ih _ (hlength ▸ length_of_batch hbatch) rest rfl
        rw [batches_of_batch hbatch]
        exact ⟨r', .cons (readBatch_eq.2 ⟨rest, hbatch, rfl⟩) hreads, hend⟩

/-! ## The header -/

lemma splitHeader_of_notMem {bytes : List UInt8} (h : 0x0d ∉ bytes) : splitHeader bytes = none := by
  induction bytes with
  | nil => rfl
  | cons b rest ih =>
    obtain ⟨hb, hrest⟩ : 0x0d ≠ b ∧ 0x0d ∉ rest := by simpa using h
    rw [splitHeader, if_neg hb.symm, ih hrest]
    rfl

lemma eq_append_of_splitHeader {bytes header rest : List UInt8}
    (h : splitHeader bytes = some (header, rest)) : 0x0d ∉ header ∧ bytes = header ++ 0x0d :: rest := by
  induction bytes generalizing header with
  | nil => cases h
  | cons b more ih =>
    rw [splitHeader] at h
    split at h
    · next hb =>
      obtain ⟨rfl, rfl⟩ : [] = header ∧ more = rest := by simpa using h
      simp [hb]
    · next hb =>
      obtain ⟨⟨header', rest'⟩, hmore, heq⟩ := Option.map_eq_some_iff.1 h
      obtain ⟨rfl, rfl⟩ : b :: header' = header ∧ rest' = rest := by simpa using heq
      obtain ⟨hno, rfl⟩ := ih hmore
      exact ⟨by simp [hno, Ne.symm hb], rfl⟩

/-- A recording has a reader if it begins with the text of a descriptor that has a table. -/
lemma ofBytes_cases {bytes : List UInt8} {r : RecordReader} (h : ofBytes bytes = .ok r) :
    ∃ header, 0x0d ∉ header ∧ bytes = header ++ headerEnd ++ r.rest ∧ Descriptor.ofBytes header = .ok r.descriptor ∧
      LayoutTable.ofDescriptor r.descriptor = .ok r.layouts := by
  unfold ofBytes at h
  split at h
  · cases h
  · cases h
  · next header b rest hsplit =>
    obtain ⟨hno, rfl⟩ := eq_append_of_splitHeader hsplit
    split at h
    · cases h
    · next hb =>
      obtain rfl : b = 0 := by simpa using hb
      cases hd : Descriptor.ofBytes header with
      | error e => simp [hd, bind, Except.bind] at h
      | ok d =>
        cases hl : LayoutTable.ofDescriptor d with
        | error e => simp [hd, hl, bind, Except.bind] at h
        | ok layouts =>
          obtain rfl : ⟨d, layouts, rest⟩ = r := by simpa [hd, hl, bind, Except.bind, pure, Except.pure] using h
          exact ⟨header, hno, by simp [headerEnd], hd, hl⟩

/-- A recording with a reader begins with a header, and what follows the header does not matter to it. -/
lemma exists_header {bytes : List UInt8} {r : RecordReader} (h : ofBytes bytes = .ok r) :
    ∃ header, 0x0d ∉ header ∧ bytes = header ++ headerEnd ++ r.rest ∧
      ∀ rest, ofBytes (header ++ headerEnd ++ rest) = .ok { r with rest } := by
  obtain ⟨header, hno, hbytes, hd, hl⟩ := ofBytes_cases h
  refine ⟨header, hno, hbytes, fun rest => ?_⟩
  have hsplit : splitHeader (header ++ headerEnd ++ rest) = some (header, 0 :: rest) := by
    rw [headerEnd, List.append_assoc]
    exact splitHeader_append hno (0 :: rest)
  rw [ofBytes, hsplit]
  simp [hd, hl, bind, Except.bind, pure, Except.pure]

/-- A recording that ends before its header does has no reader. -/
lemma ofBytes_take_header {header : List UInt8} (hno : 0x0d ∉ header) (rest : List UInt8) {n : Nat}
    (hn : n < header.length + 2) :
    ofBytes ((header ++ headerEnd ++ rest).take n) =
      .error (if n = header.length + 1 then .io .endOfData
        else .invalidHeader "missing \\r\\0 terminator") := by
  by_cases hlast : n = header.length + 1
  · have htake : (header ++ headerEnd ++ rest).take n = header ++ 0x0d :: [] := by
      rw [hlast, headerEnd, List.append_assoc, List.take_length_add_append]
      rfl
    rw [if_pos hlast, htake, ofBytes, splitHeader_append hno]
  · have htake : (header ++ headerEnd ++ rest).take n = header.take n := by
      rw [List.append_assoc, List.take_append_of_le_length (by omega)]
    rw [if_neg hlast, htake, ofBytes, splitHeader_of_notMem fun h => hno (List.mem_of_mem_take h)]

/-! ## Cut recordings -/

/-- Of a recording with a reader each read takes the bytes of one frame, and after no more than half as many reads
as it has bytes it ends or fails.  If its body is made of complete frames then each of them is read as a batch of its
own, and a cut of the body leaves the batches of the frames that lie before it: the reads end well for a cut
between two frames, and else for want of data.  A cut within the header leaves no reader. -/
theorem reads_truncated {bytes : List UInt8} {r : RecordReader} (h : ofBytes bytes = .ok r) :
    (∀ found r₁, Reads r found r₁ → 2 * found.length + r₁.rest.length ≤ r.rest.length ∧
      ∀ frames r₂, r₁.readBatch = .ok (some (frames, r₂)) →
        ∃ n, r.layouts.frameLength? r₁.rest = some n ∧ n ≤ r₁.rest.length ∧
          r₂ = { r with rest := r₁.rest.drop n }) ∧
    (∃ r₁, Reads r r.readBatches.1 r₁ ∧
      (r₁.readBatch = .ok none ∧ r.readAll = .ok r.readBatches.1.flatten ∨
        ∃ e, r₁.readBatch = .error e ∧ r.readAll = .error e)) ∧
    ∃ header, bytes = header ++ headerEnd ++ r.rest ∧
      (∀ n < header.length + headerEnd.length, ∃ e, ofBytes (bytes.take n) = .error e) ∧
      ∀ frames : List (List UInt8), r.rest = frames.flatten → (∀ f ∈ frames, r.layouts.IsFrame f) →
        List.Forall₂ (fun f found => batch r.layouts f = .ok (some (found, []))) frames r.readBatches.1 ∧
        r.readBatches.2 = none ∧
        ∀ cut ≤ r.rest.length,
          ∃ k ≤ frames.length, (∀ j ≤ frames.length, (frames.take j).flatten.length ≤ cut ↔ j ≤ k) ∧
            ∃ short, ofBytes (bytes.take (header.length + headerEnd.length + cut)) = .ok short ∧
              short.descriptor = r.descriptor ∧
              short.readBatches = (r.readBatches.1.take k,
                if (frames.take k).flatten.length = cut then none else some (.io .endOfData)) := by
  refine ⟨fun found r₁ hreads => ⟨hreads.bounded, fun frames r₂ hread => ?_⟩, ?_, ?_⟩
  · obtain ⟨n, hn, hle, rfl⟩ := readBatch_takes hread
    rw [hreads.eq_with] at hn ⊢
    exact ⟨n, hn, hle, rfl⟩
  · obtain ⟨r₁, hreads, hend⟩ := reads_readBatches r
    refine ⟨r₁, hreads, ?_⟩
    rcases hend with ⟨hnone, hok⟩ | ⟨e, herror, hfailed⟩
    · exact .inl ⟨hnone, readAll_of_end hok⟩
    · exact .inr ⟨e, herror, readAll_of_failure hfailed⟩
  · obtain ⟨header, hno, hbytes, hheader⟩ := exists_header h
    refine ⟨header, hbytes, fun n hn => ⟨_, hbytes ▸ ofBytes_take_header hno r.rest hn⟩, ?_⟩
    intro frames hbody hframes
    obtain ⟨hall, hend⟩ := batches_flatten hframes
    rw [readBatches, hbody]
    refine ⟨hall, hend, fun cut hcut => ?_⟩
    obtain ⟨k, hk, hwithin, hread⟩ := batches_take hframes hcut
    have htake : bytes.take (header.length + headerEnd.length + cut) =
        header ++ headerEnd ++ frames.flatten.take cut := by
      rw [hbytes, hbody, ← List.length_append, List.take_length_add_append]
    exact ⟨k, hk, hwithin, { r with rest := frames.flatten.take cut }, by rw [htake, hheader], rfl, hread⟩

/-- Frames of both kinds; the second byte of the last one counts nothing, as it has no increments. -/
def mixedFrames : List (List UInt8) :=
  [[1, 0, 0, 7, 200, 3, 0], [2, 1, 100, 0, 0, 0, 0, 0, 0, 0, 5, 255, 254, 4, 0, 0], [1, 9, 0, 8, 1, 0, 0]]

/-- The recording of these frames is cut behind the first sample of the second one. -/
theorem reads_truncated_mixedFrames :
    ∃ r short, ofBytes (twoKinds.toBytes ++ headerEnd ++ mixedFrames.flatten) = .ok r ∧
      r.rest = mixedFrames.flatten ∧ (∀ f ∈ mixedFrames, r.layouts.IsFrame f) ∧
      ofBytes ((twoKinds.toBytes ++ headerEnd ++ mixedFrames.flatten).take
        (twoKinds.toBytes.length + headerEnd.length + 20)) = .ok short ∧
      short.readBatches = (r.readBatches.1.take 1, some (.io .endOfData)) := by
  have hread : ofBytes (twoKinds.toBytes ++ headerEnd ++ mixedFrames.flatten) =
      .ok ⟨twoKinds, twoKinds.frames.map fun f => (f.id, f.fields), mixedFrames.flatten⟩ := by decide +kernel
  have hframes : ∀ f ∈ mixedFrames, LayoutTable.IsFrame (twoKinds.frames.map fun f => (f.id, f.fields)) f := by
    decide
  obtain ⟨-, -, header, hheader, -, hcuts⟩ := reads_truncated hread
  have hlength : header.length = twoKinds.toBytes.length := by simpa using (congrArg List.length hheader).symm
  obtain ⟨-, -, hcut⟩ := hcuts mixedFrames rfl hframes
  obtain ⟨k, hk, hwithin, short, hshort, -, hbatches⟩ := hcut 20 (by decide)
  have hone : 1 ≤ k := (hwithin 1 (by decide)).1 (by decide)
  have htwo : ¬ 2 ≤ k := fun h => absurd ((hwithin 2 (by decide)).2 h) (by decide)
  obtain rfl : k = 1 := by omega
  exact ⟨_, short, hread, rfl, hframes, hlength ▸ hshort, hbatches⟩

end RecordReader

end FieldStudy
