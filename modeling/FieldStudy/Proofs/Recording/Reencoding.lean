import Mathlib.Data.List.Basic
import Mathlib.Data.List.Forall2
import Mathlib.Tactic.Common
import FieldStudy.Proofs.Field.Inverse
import FieldStudy.Proofs.Recording.Layouts

/-!
# Writing what was read

A frame of one sample of integers is written as the bytes that it was read from: its time, which is a signed word as it
is read, has the same bytes as the scalar of its field (`FieldFormat.pack_toInt64`), and so have the values
(`FieldFormat.packAll_of_unpackAll?`).  Only the second byte of the frame is not read, and it is written as zero.  So a
writer with the descriptor of a reader hands its sink the frames that the reader was given
(`RecordReader.rewrite_readAll`).
-/

namespace FieldStudy

/-- The call that writes what was read. -/
def Frame.writeCall (f : Frame) : WriterCall := .write f.id (.int f.timestamp) f.values

/-- Pieces are handed to a sink one after the other, whatever their outcomes. -/
def RecordSink.writeEach {σ ω : Type} [RecordSink σ ω] (sink : σ) (w : ω) :
    List (List UInt8) → List (Except IoError Unit) × σ × ω
  | [] => ([], sink, w)
  | piece :: rest =>
    let (outcome, sink', w') := RecordSink.write sink piece w
    let (later, last) := writeEach sink' w' rest
    (outcome :: later, last)

/-! ## One frame -/

/-- An integer and the signed word with its bits have the same bytes in a field. -/
lemma FieldFormat.pack_toInt64 {f : FieldFormat} {s : Scalar} (hf : f.IsInteger) (hs : s.isInteger) :
    f.pack (.int s.toInt64) = f.pack s := by
  have hword : f.code.word (.int s.toInt64) = f.code.word s := by
    obtain ⟨e, c⟩ := f
    cases s with
    | int v => rfl
    | uint v => cases c <;> first | rfl | exact absurd rfl hf
    | float x => cases hs
  rw [pack_eq_iff, hword]

namespace FrameLayout

variable {l : FrameLayout}

lemma packAxes_eq_packAll {fs : List FieldFormat} {values : List Scalar} (h : values.length = fs.length) :
    packAxes fs values = FieldFormat.packAll (fs.zip values) := by
  induction fs generalizing values with
  | nil => cases values <;> rfl
  | cons f fs ih =>
    cases values with
    | nil => cases h
    | cons v vs =>
      rw [packAxes, List.zip_cons_cons, FieldFormat.packAll_cons, ih (Nat.succ.inj h)]

/-- Without increments a frame is its time and one sample. -/
lemma read?_cases (hone : l.increment = none) {count : UInt8} {fields rest : List UInt8} {time : Int64}
    {samples : List (Int64 × List Scalar)} (h : l.read? count fields = some (time, samples, rest)) :
    ∃ s more values, l.timestamp.unpack? fields = some (s, more) ∧
      FieldFormat.unpackAll? l.axes more = some (values, rest) ∧ time = s.toInt64 ∧ samples = [(0, values)] := by
  have hcount : l.sampleCount count = 1 := by simp [sampleCount, hone]
  cases htime : l.timestamp.unpack? fields with
  | none => simp [read?, htime] at h
  | some found =>
    obtain ⟨s, more⟩ := found
    cases hvalues : FieldFormat.unpackAll? l.axes more with
    | none => simp [read?, htime, hcount, readSamples?, readIncrement?, hone, hvalues] at h
    | some found =>
      obtain ⟨values, after⟩ := found
      obtain ⟨rfl, rfl, rfl⟩ : s.toInt64 = time ∧ [(0, values)] = samples ∧ after = rest := by
        simpa [read?, htime, hcount, readSamples?, readIncrement?, hone, hvalues] using h
      exact ⟨s, more, values, rfl, hvalues, rfl, rfl⟩

/-- What was read of a frame without increments is written as the bytes behind the first two, and zero as the second. -/
lemma single_of_read? (hl : l.IsInteger) (hone : l.increment = none) {count : UInt8} {fields rest : List UInt8}
    {time : Int64} {samples : List (Int64 × List Scalar)} (h : l.read? count fields = some (time, samples, rest)) :
    ∃ values, samples = [(0, values)] ∧ ∀ id, l.single id (.int time) values ++ rest = id :: 0 :: fields := by
  obtain ⟨s, more, values, htime, hvalues, rfl, rfl⟩ := read?_cases hone h
  obtain ⟨hholds, rfl⟩ := FieldFormat.pack_of_unpack? hl.timestamp htime
  obtain ⟨hlength, rfl⟩ := FieldFormat.packAll_of_unpackAll? hl.axes hvalues
  refine ⟨values, rfl, fun id => ?_⟩
  simp [single, hone, FieldFormat.pack_toInt64 hl.timestamp hholds.isInteger,
    packAxes_eq_packAll hlength]

end FrameLayout

/-- The frame is what the sample is written as. -/
def LayoutTable.Writes (layouts : LayoutTable) (frame : List UInt8) (sample : Frame) : Prop :=
  ∃ l, layouts.find? sample.id = some l ∧ l.single sample.id (.int sample.timestamp) sample.values = frame

/-- The frames of the descriptor have one sample each, and this is of integers. -/
structure Descriptor.IsPlain (d : Descriptor) : Prop where
  integers : d.HasIntegerFields
  increment : ∀ f ∈ d.frames, f.increment = none

lemma Descriptor.IsPlain.layout {d : Descriptor} (hd : d.IsPlain) {layouts : LayoutTable}
    (h : LayoutTable.ofDescriptor d = .ok layouts) {id : UInt8} {l : FrameLayout} (hl : layouts.find? id = some l) :
    l.IsInteger ∧ l.increment = none := by
  obtain rfl := Except.ok.inj ((LayoutTable.ofDescriptor_eq hd.integers).symm.trans h)
  obtain ⟨-, f, hf, rfl⟩ := LayoutTable.find?_map_fields hl
  exact ⟨hd.integers.integer f hf, hd.increment f hf⟩

/-- A frame of one sample of integers is read as the sample that is written as this frame. -/
lemma RecordReader.writes_of_batch {layouts : LayoutTable}
    (hplain : ∀ id l, layouts.find? id = some l → l.IsInteger ∧ l.increment = none) {frame : List UInt8}
    (hzero : frame[1]? = some 0) {found : List Frame} (h : batch layouts frame = .ok (some (found, []))) :
    ∃ sample, found = [sample] ∧ layouts.Writes frame sample := by
  obtain ⟨id, count, fields, l, time, samples, rfl, hl, hread, rfl⟩ := batch_cases h
  obtain rfl : count = 0 := by simpa using hzero
  obtain ⟨hinteger, hone⟩ := hplain id l hl
  obtain ⟨values, rfl, hsingle⟩ := FrameLayout.single_of_read? hinteger hone hread
  have htime : time - totalIncrement [(0, values)] + 0 = time := by simp [totalIncrement]
  refine ⟨⟨id, time, values⟩, ?_, l, hl, by simpa using hsingle id⟩
  rw [stampSamples, stampSamples, htime]

/-! ## Many frames -/

lemma forall₂_flatten {α β : Type} {R : α → β → Prop} {l : List α} {found : List (List β)}
    (h : List.Forall₂ (fun a bs => ∃ b, bs = [b] ∧ R a b) l found) : List.Forall₂ R l found.flatten := by
  induction h with
  | nil => exact .nil
  | cons hfirst _ ih =>
    obtain ⟨b, rfl, hb⟩ := hfirst
    exact .cons hb ih

namespace RecordSink

variable {σ ω : Type} [RecordSink σ ω] {stored : σ → ω → List UInt8}

/-- A sink that takes each of the pieces has stored all of them behind what it had stored. -/
lemma Keeps.stored_writeEach (hs : Keeps stored) (sink : σ) (w : ω) (pieces : List (List UInt8))
    (h : ∀ outcome ∈ (writeEach sink w pieces).1, outcome = .ok ()) :
    stored (writeEach sink w pieces).2.1 (writeEach sink w pieces).2.2 = stored sink w ++ pieces.flatten := by
  induction pieces generalizing sink w with
  | nil => exact (List.append_nil _).symm
  | cons piece rest ih =>
    rcases hwrite : write sink piece w with ⟨outcome, sink', w'⟩
    simp only [RecordSink.writeEach, hwrite] at h ⊢
    obtain ⟨rfl, hrest⟩ := List.forall_mem_cons.1 h
    rw [ih sink' w' hrest, hs.write_ok _ _ _ _ _ hwrite, List.flatten_cons, List.append_assoc]

end RecordSink

namespace RecordWriter

variable {σ ω : Type} [RecordSink σ ω] {writer : RecordWriter σ}

/-- The call for a sample hands the sink its frame. -/
lemma call_writeCall (hpaused : writer.paused = false) {frame : List UInt8} {sample : Frame}
    (h : writer.layouts.Writes frame sample) (w : ω) :
    writer.call w sample.writeCall = writer.adopt (RecordSink.write writer.sink frame w) := by
  obtain ⟨l, hl, rfl⟩ := h
  have hne : (l.single sample.id (.int sample.timestamp) sample.values).isEmpty = false := rfl
  simp [call, Frame.writeCall, write, hpaused, LayoutTable.get, hl, Except.map, putFrame, put, hne]

/-- The calls for samples hand the sink their frames. -/
lemma run_writeCalls (hpaused : writer.paused = false) {frames : List (List UInt8)} {samples : List Frame}
    (h : List.Forall₂ writer.layouts.Writes frames samples) (w : ω) :
    (writer.run w (samples.map Frame.writeCall)).2 =
        ({ writer with sink := (RecordSink.writeEach writer.sink w frames).2.1 },
          (RecordSink.writeEach writer.sink w frames).2.2) ∧
      (writer.run w (samples.map Frame.writeCall)).1.map (·.outcome) =
        (RecordSink.writeEach writer.sink w frames).1.map (·.mapError .io) := by
  obtain ⟨sink, d, layouts, paused⟩ := writer
  dsimp only at hpaused h ⊢
  induction h generalizing sink w with
  | nil => exact ⟨rfl, rfl⟩
  | @cons frame sample frames samples hfirst _ ih =>
    rcases hwrite : RecordSink.write sink frame w with ⟨outcome, sink', w'⟩
    have hcall : call ⟨sink, d, layouts, paused⟩ w sample.writeCall = adopt ⟨sink, d, layouts, paused⟩ _ :=
      call_writeCall hpaused hfirst w
    obtain ⟨hlast, houtcomes⟩ := ih w' sink'
    simp only [List.map_cons, run, hcall, adopt, RecordSink.writeEach, hwrite]
    exact ⟨hlast, congrArg _ houtcomes⟩

end RecordWriter

namespace RecordReader

variable {σ ω : Type} [RecordSink σ ω] {stored : σ → ω → List UInt8}

/-- Let the frames of a descriptor have one sample each of integers.  A body of complete frames, with zero as the second
byte of each, is read as one sample for each frame.  A writer with the same descriptor that writes these samples hands
its sink the frames themselves, in their order, and each call has the outcome of that; so if the sink takes each of them
then the body has been stored. -/
theorem rewrite_readAll (hs : RecordSink.Keeps stored) {r : RecordReader} {writer : RecordWriter σ}
    (hr : r.IsCompiled) (hw : writer.IsCompiled) (hsame : writer.descriptor = r.descriptor)
    (hpaused : writer.paused = false) (hplain : r.descriptor.IsPlain) {frames : List (List UInt8)}
    (hbody : r.rest = frames.flatten) (hframes : ∀ frame ∈ frames, r.layouts.IsFrame frame ∧ frame[1]? = some 0) :
    ∃ samples, r.readAll = .ok samples ∧ samples.length = frames.length ∧
      ∀ w, ∃ records outcomes sink' w', RecordSink.writeEach writer.sink w frames = (outcomes, sink', w') ∧
        writer.run w (samples.map Frame.writeCall) = (records, { writer with sink := sink' }, w') ∧
        records.map (·.outcome) = outcomes.map (·.mapError .io) ∧
        ((∀ outcome ∈ outcomes, outcome = .ok ()) → stored sink' w' = stored writer.sink w ++ r.rest) := by
  have hlayouts : writer.layouts = r.layouts := by
    rw [RecordWriter.IsCompiled, hsame, hr] at hw
    exact (Except.ok.inj hw).symm
  obtain ⟨hbatches, hend⟩ := batches_flatten fun frame hframe => (hframes frame hframe).1
  rw [← hbody, ← readBatches] at hbatches hend
  have hwrites : List.Forall₂ writer.layouts.Writes frames r.readBatches.1.flatten := by
    refine forall₂_flatten (((List.forall₂_and_left _ _).2 ⟨hframes, hbatches⟩).imp fun frame found h => ?_)
    exact hlayouts ▸ writes_of_batch (fun _ _ => hplain.layout hr) h.1.2 h.2
  refine ⟨r.readBatches.1.flatten, readAll_of_end hend, hwrites.length_eq.symm, fun w => ?_⟩
  obtain ⟨hlast, houtcomes⟩ := RecordWriter.run_writeCalls hpaused hwrites w
  exact ⟨_, _, _, _, rfl, Prod.ext rfl hlast, houtcomes, fun hall => hbody ▸ hs.stored_writeEach _ _ _ hall⟩

/-- Two kinds of frames of one sample each. -/
def plainKinds : Descriptor :=
  { frames :=
      [{ id := 1, axes := [{ datatype := some ⟨.little, .uint64⟩ }, { datatype := some ⟨.big, .int8⟩ }] },
        { id := 2, timestamp := ⟨.big, .int16⟩, axes := [{ datatype := some ⟨.little, .uint32⟩ }] }] }

/-- A time and a value beyond the signed words, and a time before zero. -/
def plainFrames : List (List UInt8) :=
  [[1, 0, 254, 255, 255, 255, 255, 255, 255, 255, 0, 0, 0, 0, 0, 0, 0, 128, 200], [2, 0, 255, 0, 4, 3, 2, 1]]

/-- The two frames are read and written again. -/
theorem rewrite_readAll_plainFrames :
    let samples : List Frame := [⟨1, -2, [.uint 0x8000000000000000, .int (-56)]⟩, ⟨2, -256, [.uint 0x1020304]⟩]
    ∃ (r : RecordReader) (writer : RecordWriter MemorySink),
      ofBytes (plainKinds.toBytes ++ headerEnd ++ plainFrames.flatten) = .ok r ∧
      RecordWriter.create {} plainKinds () = (.ok (), writer, ()) ∧ r.readAll = .ok samples ∧
      (writer.run () (samples.map Frame.writeCall)).2.1.sink.stored = writer.sink.stored ++ plainFrames.flatten := by
  intro samples
  have hplain : plainKinds.IsPlain := by
    refine ⟨⟨by decide, fun f hf => ?_⟩, by decide⟩
    simp only [plainKinds, List.mem_cons, List.not_mem_nil, or_false] at hf
    obtain rfl | rfl := hf <;> exact ⟨by decide, by decide, by decide⟩
  let layouts : LayoutTable := plainKinds.frames.map fun f => (f.id, f.fields)
  let writer : RecordWriter MemorySink := ⟨{ stored := plainKinds.toBytes ++ headerEnd }, plainKinds, layouts, false⟩
  have hread : ofBytes (plainKinds.toBytes ++ headerEnd ++ plainFrames.flatten) =
      .ok ⟨plainKinds, layouts, plainFrames.flatten⟩ := by decide +kernel
  have hcreate : RecordWriter.create {} plainKinds () = (.ok (), writer, ()) := rfl
  have hframes : ∀ frame ∈ plainFrames, layouts.IsFrame frame ∧ frame[1]? = some 0 := by decide
  have hsamples : readAll ⟨plainKinds, layouts, plainFrames.flatten⟩ = .ok samples := by decide +kernel
  obtain ⟨found, hfound, -, hrun⟩ := rewrite_readAll MemorySink.keeps (of_ofBytes hread)
    (RecordWriter.of_create hcreate).2 rfl rfl hplain rfl hframes
  obtain rfl : samples = found := Except.ok.inj (hsamples.symm.trans hfound)
  obtain ⟨records, outcomes, sink', w', hgiven, hlast, -, hstored⟩ := hrun ()
  refine ⟨_, writer, hread, hcreate, hsamples, ?_⟩
  obtain rfl : [.ok (), .ok ()] = outcomes := congrArg Prod.fst hgiven
  rw [hlast]
  exact hstored (by decide)

end RecordReader

end FieldStudy
