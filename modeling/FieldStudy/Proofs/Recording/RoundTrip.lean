import Mathlib.Data.List.Basic
import Mathlib.Tactic.Common
import FieldStudy.Proofs.Descriptor.RoundTrip
import FieldStudy.Proofs.Recording.Calls
import FieldStudy.Proofs.Recording.Frame

/-!
# Recordings are read back

A recording that a run of calls has stored is read as its descriptor and as one batch for each call that has
written a frame (`RecordReader.ofBytes_run`).  The header ends at the first carriage return, so the texts of the
descriptor must not hold any; behind it each frame is as long as its own layout says, and so the frames are
found one after another.
-/

namespace FieldStudy

/-! ## Layouts -/

/-- The formats of the fields, if each axis has one. -/
def FrameDescription.fields (f : FrameDescription) : FrameLayout :=
  ⟨f.timestamp, f.increment, f.axes.filterMap (·.datatype)⟩

namespace Descriptor

/-- The fields of the frames of an id: of several descriptions of an id the last one counts. -/
def fields (d : Descriptor) (id : UInt8) : FrameLayout :=
  ((d.frames.reverse.find? (·.id == id)).getD {}).fields

/-- Every field of a frame has a format, and it is for integers. -/
structure HasIntegerFields (d : Descriptor) : Prop where
  datatype : ∀ f ∈ d.frames, ∀ a ∈ f.axes, a.datatype ≠ none
  integer : ∀ f ∈ d.frames, f.fields.IsInteger

/-- No text of the descriptor holds the byte at which its header ends. -/
structure HasNoReturn (d : Descriptor) : Prop where
  text : ∀ t ∈ d.texts, '\r' ∉ t.toList
  values : ∀ vs ∈ d.valueLists, ∀ v ∈ vs, '\r' ∉ v.toList

end Descriptor

lemma FrameDescription.layout_eq {f : FrameDescription} (h : ∀ a ∈ f.axes, a.datatype ≠ none) :
    f.layout = .ok f.fields := by
  have haxes : f.axisFormats = .ok (f.axes.filterMap (·.datatype)) := by
    rw [axisFormats]
    generalize f.axes = axes at h
    induction axes with
    | nil => rfl
    | cons a rest ih =>
      obtain ⟨format, hformat⟩ := Option.ne_none_iff_exists'.1 (h a (by simp))
      rw [List.mapM_cons, ih fun b hb => h b (List.mem_cons_of_mem _ hb), hformat,
        List.filterMap_cons_some hformat]
      rfl
  rw [layout, haxes]
  rfl

namespace LayoutTable

lemma ofDescriptor_eq {d : Descriptor} (h : d.HasIntegerFields) :
    ofDescriptor d = .ok (d.frames.map fun f => (f.id, f.fields)) := by
  have hlayout : ∀ f ∈ d.frames, f.layout = .ok f.fields := fun f hf =>
    FrameDescription.layout_eq (h.datatype f hf)
  rw [ofDescriptor]
  generalize d.frames = frames at hlayout
  induction frames with
  | nil => rfl
  | cons f rest ih =>
    rw [List.mapM_cons, ih fun g hg => hlayout g (List.mem_cons_of_mem _ hg), hlayout f (by simp)]
    rfl

/-- The layout of an id has the fields of that id, and they are those of one of the descriptions. -/
lemma find?_map_fields {d : Descriptor} {id : UInt8} {l : FrameLayout}
    (h : find? (d.frames.map fun f => (f.id, f.fields)) id = some l) :
    d.fields id = l ∧ ∃ f ∈ d.frames, f.fields = l := by
  rw [find?, ← List.map_reverse, List.find?_map, Option.map_map, Option.map_eq_some_iff] at h
  obtain ⟨f, hf, rfl⟩ := h
  have hfields : d.fields id = f.fields := by
    rw [Descriptor.fields]
    exact congrArg (fun o => (Option.getD o {}).fields) hf
  exact ⟨hfields, f, by simpa using List.mem_of_find?_eq_some hf, rfl⟩

end LayoutTable

/-! ## The header -/

lemma PrintedLine.no_return {texts : List String} {lists : List (List String)} {l : List Char}
    (h : PrintedLine texts lists l) (ht : ∀ t ∈ texts, '\r' ∉ t.toList)
    (hv : ∀ vs ∈ lists, ∀ v ∈ vs, '\r' ∉ v.toList) : '\r' ∉ l := by
  have hkey : ∀ key ∈ keywords, '\r' ∉ key.toList := by decide
  have hvalueLine {key value : String} (hk : key ∈ keywords) (hvalue : '\r' ∉ value.toList) :
      '\r' ∉ valueLine key value := by
    rw [valueLine]
    simp [hkey key hk, hvalue]
  cases h with
  | keyword hk => exact hkey _ hk
  | text hk h => exact hvalueLine hk (ht _ h)
  | format hk f =>
    refine hvalueLine hk ?_
    obtain ⟨e, c⟩ := f
    cases e <;> cases c <;> decide
  | number hk n =>
    refine hvalueLine hk fun hc => ?_
    rw [numberText, String.toList_ofList] at hc
    have hdigit := Nat.isDigit_of_mem_toDigits (by decide) (by decide) hc
    exact absurd hdigit (by decide)
  | values h =>
    intro hc
    rcases List.mem_append.1 hc with hc | hc
    · exact absurd hc (by decide)
    · obtain hc | ⟨p, hp, hcp⟩ := Text.mem_join hc
      · simp at hc
      · obtain ⟨v, hv', rfl⟩ := List.mem_map.1 hp
        exact hv _ h v hv' hcp

/-- The header of a recording holds no byte at which it would end. -/
lemma Descriptor.HasNoReturn.notMem_toBytes {d : Descriptor} (h : d.HasNoReturn) :
    0x0d ∉ d.toBytes := by
  intro hb
  have hc : '\r' ∈ d.text := Utf8.mem_of_mem_encode hb (by decide)
  obtain hc | ⟨l, hl, hc⟩ := Text.mem_join hc
  · simp at hc
  · exact (d.printedLine l hl).no_return h.text h.values hc

lemma splitHeader_append {header : List UInt8} (h : 0x0d ∉ header) (rest : List UInt8) :
    splitHeader (header ++ 0x0d :: rest) = some (header, rest) := by
  induction header with
  | nil => simp [splitHeader]
  | cons b more ih =>
    obtain ⟨hb, hmore⟩ : 0x0d ≠ b ∧ 0x0d ∉ more := by simpa using h
    rw [List.cons_append, splitHeader, if_neg hb.symm, ih hmore]
    rfl

/-- The header is read as its descriptor, and what follows it is left. -/
lemma RecordReader.ofBytes_of_layouts {d : Descriptor} {layouts : LayoutTable} (hd : d.Printable) (hr : d.HasNoReturn)
    (hlayouts : LayoutTable.ofDescriptor d = .ok layouts) (rest : List UInt8) :
    RecordReader.ofBytes (d.toBytes ++ headerEnd ++ rest) = .ok ⟨d, layouts, rest⟩ := by
  have hsplit : splitHeader (d.toBytes ++ headerEnd ++ rest) = some (d.toBytes, 0 :: rest) := by
    rw [headerEnd, List.append_assoc]
    exact splitHeader_append hr.notMem_toBytes (0 :: rest)
  have hread : Descriptor.ofBytes d.toBytes = .ok d := by
    rw [Descriptor.ofBytes, Descriptor.toBytes, Utf8.decode_encode]
    exact Descriptor.ofText_text hd
  rw [RecordReader.ofBytes, hsplit]
  simp [hread, hlayouts, bind, Except.bind, pure, Except.pure]

lemma RecordReader.ofBytes_header {d : Descriptor} (hd : d.Printable) (hr : d.HasNoReturn)
    (hi : d.HasIntegerFields) (rest : List UInt8) :
    RecordReader.ofBytes (d.toBytes ++ headerEnd ++ rest) =
      .ok ⟨d, d.frames.map fun f => (f.id, f.fields), rest⟩ :=
  ofBytes_of_layouts hd hr (LayoutTable.ofDescriptor_eq hi) rest

/-! ## Runs -/

/-- The numbers of the call are integers. -/
def WriterCall.IsInteger : WriterCall → Prop
  | .write _ timestamp values => timestamp.isInteger ∧ ∀ v ∈ values, v.isInteger
  | .writeMulti _ timestamp samples => timestamp.isInteger ∧ ∀ s ∈ samples, s.IsInteger
  | .setPaused _ | .flush | .close => True

lemma WriterCall.IsInteger.of_frame? {c : WriterCall} {id : UInt8} {timestamp : Scalar}
    {samples : List Sample} (h : c.IsInteger) (hc : c.frame? = some (id, timestamp, samples)) :
    timestamp.isInteger ∧ ∀ s ∈ samples, s.IsInteger := by
  cases c with
  | write id t values =>
    obtain ⟨-, rfl, rfl⟩ : _ ∧ t = timestamp ∧ [⟨.zero, values⟩] = samples := by
      simpa [frame?] using hc
    refine ⟨h.1, fun s hs => ?_⟩
    obtain rfl := List.mem_singleton.1 hs
    exact ⟨rfl, h.2⟩
  | writeMulti id t ss =>
    obtain ⟨-, -, rfl, rfl⟩ : ss ≠ [] ∧ _ ∧ t = timestamp ∧ ss = samples := by
      simpa [frame?] using hc
    exact h
  | setPaused p => simp [frame?] at hc
  | flush => simp [frame?] at hc
  | close => simp [frame?] at hc

/-- What is read of a call: the batch of the frame that it has written. -/
def CallRecord.batch? (d : Descriptor) (r : CallRecord) : Option (List Frame) :=
  r.frame?.map fun (id, timestamp, samples) => (d.fields id).batch id timestamp samples

namespace RecordReader

lemma batches_nil (layouts : LayoutTable) : batches layouts [] = ([], none) := by
  rw [batches.eq_def]
  rfl

lemma batches_of_batch {layouts : LayoutTable} {bytes rest : List UInt8} {frames : List Frame}
    (h : batch layouts bytes = .ok (some (frames, rest))) :
    batches layouts bytes = (frames :: (batches layouts rest).1, (batches layouts rest).2) := by
  rw [batches.eq_def]
  split
  · next h' => simp [h] at h'
  · next h' => simp [h] at h'
  · next frames' rest' h' =>
    obtain ⟨rfl, rfl⟩ : frames = frames' ∧ rest = rest' := by simpa [h] using h'
    rfl

/-- What the calls of a run have stored is read as the batches of their frames, and then it ends. -/
theorem batches_run {σ ω : Type} [RecordSink σ ω] {stored : σ → ω → List UInt8}
    (hs : RecordSink.Keeps stored) {d : Descriptor} (hi : d.HasIntegerFields)
    {calls : List WriterCall} (hc : ∀ c ∈ calls, c.IsInteger) {writer writer' : RecordWriter σ}
    (hlayouts : writer.layouts = d.frames.map fun f => (f.id, f.fields)) {w w' : ω}
    {records : List CallRecord} (h : writer.run w calls = (records, writer', w')) :
    ∃ bytes, stored writer'.sink w' = stored writer.sink w ++ bytes ∧
      batches writer.layouts bytes = (records.filterMap (·.batch? d), none) := by
  induction calls generalizing writer w records with
  | nil =>
    obtain ⟨rfl, rfl, rfl⟩ : [] = records ∧ writer = writer' ∧ w = w' := by
      simpa [RecordWriter.run] using h
    exact ⟨[], by simp, batches_nil _⟩
  | cons c rest ih =>
    rcases hcall : writer.call w c with ⟨outcome, writer₁, w₁⟩
    rcases hrest : writer₁.run w₁ rest with ⟨later, writer₂, w₂⟩
    obtain ⟨rfl, rfl, rfl⟩ : ⟨c, writer.paused, outcome⟩ :: later = records ∧ writer₂ = writer' ∧ w₂ = w' := by
      simpa [RecordWriter.run, hcall, hrest] using h
    obtain ⟨hsame, bytes, hadds, hstored⟩ := RecordWriter.call_adds hs hcall
    obtain ⟨more, hmore, hread⟩ := ih (fun x hx => hc x (List.mem_cons_of_mem _ hx)) (hsame.trans hlayouts) hrest
    rw [hsame] at hread
    refine ⟨bytes ++ more, by rw [hmore, hstored, List.append_assoc], ?_⟩
    cases hadds with
    | nothing hframe =>
      rw [List.nil_append, hread, List.filterMap_cons_none]
      simp [CallRecord.batch?, hframe]
    | @frame id timestamp samples l hframe hl hne hmax hone =>
      have hfound := hl
      rw [hlayouts] at hfound
      obtain ⟨hfields, f, hf, rfl⟩ := LayoutTable.find?_map_fields hfound
      obtain ⟨ht, hsamples⟩ := (hc c (by simp)).of_frame? (CallRecord.call_frame? hframe)
      have hbatch := batch_frameBytes hl (hi.integer f hf) ht hsamples hne hmax hone more
      rw [batches_of_batch hbatch, hread, List.filterMap_cons_some]
      simp [CallRecord.batch?, hframe, hfields]

/-- A recording is read as the descriptor that its writer was made for, and then as one batch for each call that
has written a frame, in the order of the calls. -/
theorem ofBytes_run {σ ω : Type} [RecordSink σ ω] {stored : σ → ω → List UInt8}
    (hs : RecordSink.Keeps stored) {d : Descriptor} (hd : d.Printable) (hr : d.HasNoReturn)
    (hi : d.HasIntegerFields) {calls : List WriterCall} (hc : ∀ c ∈ calls, c.IsInteger) {sink : σ}
    {writer writer' : RecordWriter σ} {w₀ w w' : ω} {records : List CallRecord}
    (hcreate : RecordWriter.create sink d w₀ = (.ok (), writer, w))
    (h : writer.run w calls = (records, writer', w')) :
    ∃ recording reader, stored writer'.sink w' = stored sink w₀ ++ recording ∧
      ofBytes recording = .ok reader ∧ reader.descriptor = d ∧
      reader.readBatches = (records.filterMap (·.batch? d), none) := by
  obtain ⟨htable, hheader⟩ := RecordWriter.create_stored hs hcreate
  have hlayouts : writer.layouts = d.frames.map fun f => (f.id, f.fields) := by
    rw [LayoutTable.ofDescriptor_eq hi] at htable
    exact (Except.ok.inj htable).symm
  obtain ⟨bytes, hstored, hread⟩ := batches_run hs hi hc hlayouts h
  refine ⟨d.toBytes ++ headerEnd ++ bytes, _, ?_, ofBytes_header hd hr hi bytes, rfl, ?_⟩
  · rw [hstored, hheader, List.append_assoc]
  · rw [readBatches, ← hlayouts, hread]

/-- Two kinds of frames, and two descriptions of one of their ids. -/
def twoKinds : Descriptor :=
  { frames :=
      [{ id := 1, axes := [{ datatype := some ⟨.big, .int64⟩ }] },
        { id := 1, timestamp := ⟨.big, .uint16⟩
          axes := [{ datatype := some ⟨.big, .int8⟩ }, { datatype := some ⟨.little, .uint16⟩ }] },
        { id := 2, increment := some ⟨.little, .uint8⟩, axes := [{ datatype := some ⟨.big, .int16⟩ }] }] }

/-- Calls of which some fail, some are made while the writer is paused and some have no sample. -/
def mixedCalls : List WriterCall :=
  [.write 1 (.uint 0x10007) [.int 200, .uint 3, .int 4], .write 9 .zero [], .setPaused true, .write 1 .zero [],
    .setPaused false, .writeMulti 1 .zero [⟨.zero, []⟩], .writeMulti 2 .zero [],
    .writeMulti 2 (.uint 100) [⟨.int 5, [.int (-2)]⟩, ⟨.int 260, []⟩], .flush, .write 2 (.int (-1)) [.int 7],
    .close]

theorem ofBytes_run_mixedCalls : ∃ writer : RecordWriter MemorySink,
    RecordWriter.create {} twoKinds () = (.ok (), writer, ()) ∧
    ∃ recording reader, (writer.run () mixedCalls).2.1.sink.stored = [] ++ recording ∧
      ofBytes recording = .ok reader ∧ reader.descriptor = twoKinds ∧
      reader.readBatches =
        ([[⟨1, 7, [.int (-56), .uint 3]⟩], [⟨2, 96, [.int (-2)]⟩, ⟨2, 100, [.int 0]⟩],
          [⟨2, -1, [.int 7]⟩]], none) := by
  have hi : twoKinds.HasIntegerFields :=
    ⟨by decide, fun f hf => by
      simp only [twoKinds, List.mem_cons, List.not_mem_nil, or_false] at hf
      obtain rfl | rfl | rfl := hf <;> exact ⟨by decide, by decide, by decide⟩⟩
  have hc : ∀ c ∈ mixedCalls, c.IsInteger := by
    intro c hc
    simp only [mixedCalls, List.mem_cons, List.not_mem_nil, or_false] at hc
    obtain rfl | rfl | rfl | rfl | rfl | rfl | rfl | rfl | rfl | rfl | rfl := hc <;> trivial
  have hcreate : RecordWriter.create ({} : MemorySink) twoKinds () = (.ok (), _, ()) := rfl
  exact ⟨_, hcreate, ofBytes_run MemorySink.keeps (by decide) ⟨by decide, by decide⟩ hi hc hcreate rfl⟩

end RecordReader

end FieldStudy
