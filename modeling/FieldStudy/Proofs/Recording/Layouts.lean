import Mathlib.Data.List.Basic
import Mathlib.Data.List.Forall2
import Mathlib.Tactic.Common
import FieldStudy.Proofs.Recording.Truncation

/-!
# Layouts by descriptor

A writer and a reader lay frames out by a table that is made of their descriptor when they are made, and no call
changes it.  An id is unknown to them if and only if the descriptor does not describe it.  Of several descriptions of
one id the table keeps the last one, while `Descriptor.frame` finds the first one; where these have the same formats,
frames are laid out as `Descriptor.frame` says (`Descriptor.layout_of_last_description`).
-/

namespace FieldStudy

/-! ## Descriptions of an id -/

namespace Descriptor

/-- The last frame description of an id. -/
def lastFrame (d : Descriptor) (id : UInt8) : Except RecordingError FrameDescription :=
  ({ d with frames := d.frames.reverse } : Descriptor).frame id

variable {d : Descriptor} {id : UInt8} {f : FrameDescription}

lemma frame_eq_ok_iff : d.frame id = .ok f ↔ d.frames.find? (·.id == id) = some f := by
  rw [frame]
  cases d.frames.find? (·.id == id) <;> simp

lemma frame_eq_error_iff {e : RecordingError} :
    d.frame id = .error e ↔ .unknownFrame id = e ∧ ∀ f ∈ d.frames, f.id ≠ id := by
  rw [frame]
  cases hfind : d.frames.find? (·.id == id) with
  | none =>
    have hall : ∀ f ∈ d.frames, f.id ≠ id := by simpa using hfind
    simpa using fun _ => hall
  | some f =>
    have hid : f.id = id := by simpa using List.find?_some hfind
    simp only [reduceCtorEq, false_iff, not_and]
    exact fun _ hall => hall f (List.mem_of_find?_eq_some hfind) hid

lemma mem_of_frame (h : d.frame id = .ok f) : f ∈ d.frames ∧ f.id = id := by
  have hfind := frame_eq_ok_iff.1 h
  exact ⟨List.mem_of_find?_eq_some hfind, by simpa using List.find?_some hfind⟩

lemma mem_of_lastFrame (h : d.lastFrame id = .ok f) : f ∈ d.frames ∧ f.id = id := by
  obtain ⟨hmem, hid⟩ := mem_of_frame h
  exact ⟨List.mem_reverse.1 hmem, hid⟩

/-- An id has a last description if and only if it has a first one. -/
lemma lastFrame_eq_error_iff {e : RecordingError} : d.lastFrame id = .error e ↔ d.frame id = .error e := by
  rw [lastFrame, frame_eq_error_iff, frame_eq_error_iff]
  simp

/-- What a descriptor says of the frames of an id.  An id that it does not describe is unknown; an id that it describes
has the layout of its last description, and this is the layout of any description of the id if they are all alike. -/
structure Gives (d : Descriptor) (id : UInt8) (layout : Except RecordingError FrameLayout) : Prop where
  unknown : layout = .error (.unknownFrame id) ↔ d.frame id = .error (.unknownFrame id)
  known : ∀ f, d.frame id = .ok f → ∃ last l, d.lastFrame id = .ok last ∧ last.layout = .ok l ∧ layout = .ok l
  alike : ∀ f, d.frame id = .ok f → (∀ g ∈ d.frames, g.id = id → g.layout = f.layout) → layout = f.layout

end Descriptor

/-! ## The table of a descriptor -/

lemma forall₂_of_mapM {α β ε : Type} {g : α → Except ε β} {l : List α} {l' : List β} (h : l.mapM g = .ok l') :
    List.Forall₂ (fun a b => g a = .ok b) l l' := by
  induction l generalizing l' with
  | nil =>
    obtain rfl : [] = l' := Except.ok.inj h
    exact .nil
  | cons a rest ih =>
    rw [List.mapM_cons] at h
    cases ha : g a with
    | error e => simp [ha, bind, Except.bind] at h
    | ok b =>
      cases hrest : rest.mapM g with
      | error e => simp [ha, hrest, bind, Except.bind] at h
      | ok bs =>
        obtain rfl : b :: bs = l' := by simpa [ha, hrest, bind, Except.bind, pure, Except.pure] using h
        exact .cons ha (ih hrest)

namespace LayoutTable

variable {d : Descriptor} {layouts : LayoutTable} {id : UInt8}

/-- The entries of the table are the descriptions in their order. -/
lemma forall₂_ofDescriptor (h : ofDescriptor d = .ok layouts) :
    List.Forall₂ (fun f entry => f.id = entry.1 ∧ f.layout = .ok entry.2) d.frames layouts := by
  refine (forall₂_of_mapM h).imp fun f entry hentry => ?_
  cases hlayout : f.layout with
  | error e => simp [hlayout, Except.map] at hentry
  | ok l =>
    obtain rfl : (f.id, l) = entry := by simpa [hlayout, Except.map] using hentry
    exact ⟨rfl, rfl⟩

/-- The first entry of an id is that of its first description. -/
lemma find?_of_forall₂ (id : UInt8) {frames : List FrameDescription} {entries : List (UInt8 × FrameLayout)}
    (h : List.Forall₂ (fun f entry => f.id = entry.1 ∧ f.layout = .ok entry.2) frames entries) :
    (entries.find? (·.1 == id)).map (fun entry => .ok entry.2) =
      (frames.find? (·.id == id)).map FrameDescription.layout := by
  induction h with
  | nil => rfl
  | @cons f entry frames entries hfirst _ ih =>
    rw [List.find?_cons, List.find?_cons, hfirst.1]
    cases entry.1 == id with
    | true => exact congrArg some hfirst.2.symm
    | false => exact ih

/-- The table has the layouts of the last descriptions. -/
lemma get_ofDescriptor (h : ofDescriptor d = .ok layouts) :
    layouts.get id = (d.lastFrame id).bind FrameDescription.layout := by
  have hfind := find?_of_forall₂ id (List.rel_reverse (forall₂_ofDescriptor h))
  rw [get, find?, Descriptor.lastFrame, Descriptor.frame]
  cases hentry : layouts.reverse.find? (·.1 == id) with
  | none =>
    have hnone : d.frames.reverse.find? (·.id == id) = none := by simpa [hentry] using hfind.symm
    simp [hnone, Except.bind]
  | some entry =>
    rw [hentry, Option.map_some] at hfind
    obtain ⟨last, hlast, hlayout⟩ := Option.map_eq_some_iff.1 hfind.symm
    simp [hlast, hlayout, Except.bind]

/-- A descriptor with a table has a format for each field of its frames. -/
lemma layout_of_mem (h : ofDescriptor d = .ok layouts) {f : FrameDescription} (hf : f ∈ d.frames) :
    ∃ l, f.layout = .ok l := by
  have hall := forall₂_ofDescriptor h
  clear h
  generalize d.frames = frames at hf hall
  induction hall with
  | nil => cases hf
  | cons hfirst _ ih =>
    obtain rfl | hrest := List.mem_cons.1 hf
    · exact ⟨_, hfirst.2⟩
    · exact ih hrest

/-- The table gives the frames of an id the layout that the descriptor gives them. -/
lemma gives (h : ofDescriptor d = .ok layouts) (id : UInt8) : d.Gives id (layouts.get id) := by
  rw [get_ofDescriptor h]
  have hknown : ∀ f, d.frame id = .ok f → ∃ last l, d.lastFrame id = .ok last ∧ last.layout = .ok l := by
    intro f hf
    cases hlast : d.lastFrame id with
    | error e =>
      rw [Descriptor.lastFrame_eq_error_iff, hf] at hlast
      cases hlast
    | ok last =>
      obtain ⟨l, hl⟩ := layout_of_mem h (Descriptor.mem_of_lastFrame hlast).1
      exact ⟨last, l, rfl, hl⟩
  refine ⟨⟨fun hunknown => ?_, fun hunknown => ?_⟩, fun f hf => ?_, fun f hf halike => ?_⟩
  · cases hf : d.frame id with
    | error e => exact congrArg _ (Descriptor.frame_eq_error_iff.1 hf).1.symm
    | ok f =>
      obtain ⟨last, l, hlast, hl⟩ := hknown f hf
      rw [hlast, Except.bind, hl] at hunknown
      cases hunknown
  · rw [Descriptor.lastFrame_eq_error_iff.2 hunknown]
    rfl
  · obtain ⟨last, l, hlast, hl⟩ := hknown f hf
    exact ⟨last, l, hlast, hl, by rw [hlast, Except.bind, hl]⟩
  · obtain ⟨last, l, hlast, hl⟩ := hknown f hf
    obtain ⟨hmem, hid⟩ := Descriptor.mem_of_lastFrame hlast
    rw [hlast, Except.bind, halike last hmem hid]

end LayoutTable

/-! ## Writers and readers -/

namespace RecordWriter

variable {σ ω : Type} [RecordSink σ ω]

/-- The table of the writer is that of its descriptor. -/
def IsCompiled (writer : RecordWriter σ) : Prop := LayoutTable.ofDescriptor writer.descriptor = .ok writer.layouts

/-- The writer writes frames of an id by the layout, or fails as it does. -/
structure WritesBy (writer : RecordWriter σ) (id : UInt8) (layout : Except RecordingError FrameLayout) : Prop where
  one : ∀ timestamp values (w : ω), writer.paused = false →
    writer.write id timestamp values w = writer.putFrame (layout.map (·.single id timestamp values)) w
  several : ∀ timestamp samples (w : ω), writer.paused = false → samples ≠ [] → samples.length ≤ maxSamples →
    writer.writeMulti id timestamp samples w = writer.putFrame (layout.bind (·.multi id timestamp samples)) w

lemma writesBy_get (writer : RecordWriter σ) (id : UInt8) : writer.WritesBy id (writer.layouts.get id) where
  one timestamp values w hpaused := by simp [write, hpaused]
  several timestamp samples w hpaused hne hmax := by simp [writeMulti, hpaused, hne, Nat.not_lt_of_le hmax]

/-- A writer that was made has the table of the descriptor that it was made for. -/
lemma of_create {sink : σ} {d : Descriptor} {writer : RecordWriter σ} {w w' : ω}
    (h : create sink d w = (.ok (), writer, w')) : writer.descriptor = d ∧ writer.IsCompiled := by
  obtain ⟨layouts, sink₁, sink₂, w₁, hlayouts, -, -, rfl⟩ := create_cases h
  exact ⟨rfl, hlayouts⟩

lemma putFrame_same (writer : RecordWriter σ) (frame : Except RecordingError (List UInt8)) (w : ω) :
    (writer.putFrame frame w).2.1.descriptor = writer.descriptor ∧
      (writer.putFrame frame w).2.1.layouts = writer.layouts := by
  cases frame <;> exact ⟨rfl, rfl⟩

lemma call_same (writer : RecordWriter σ) (w : ω) (c : WriterCall) :
    (writer.call w c).2.1.descriptor = writer.descriptor ∧ (writer.call w c).2.1.layouts = writer.layouts := by
  cases c with
  | write id timestamp values =>
    rw [call, write]
    split
    · exact ⟨rfl, rfl⟩
    · exact putFrame_same _ _ _
  | writeMulti id timestamp samples =>
    rw [call, writeMulti]
    split
    · exact ⟨rfl, rfl⟩
    · split
      · exact ⟨rfl, rfl⟩
      · exact putFrame_same _ _ _
  | setPaused paused => exact ⟨rfl, rfl⟩
  | flush => exact ⟨rfl, rfl⟩
  | close => exact ⟨rfl, rfl⟩

lemma run_same (writer : RecordWriter σ) (w : ω) (calls : List WriterCall) :
    (writer.run w calls).2.1.descriptor = writer.descriptor ∧ (writer.run w calls).2.1.layouts = writer.layouts := by
  induction calls generalizing writer w with
  | nil => exact ⟨rfl, rfl⟩
  | cons c rest ih =>
    obtain ⟨hdescriptor, hlayouts⟩ := ih (writer.call w c).2.1 (writer.call w c).2.2
    obtain ⟨hfirst, hfirst'⟩ := writer.call_same w c
    exact ⟨hdescriptor.trans hfirst, hlayouts.trans hfirst'⟩

end RecordWriter

namespace RecordReader

/-- The table of the reader is that of its descriptor. -/
def IsCompiled (r : RecordReader) : Prop := LayoutTable.ofDescriptor r.descriptor = .ok r.layouts

/-- The reader reads frames of an id by the layout, or fails as it does. -/
def ReadsBy (r : RecordReader) (id : UInt8) (layout : Except RecordingError FrameLayout) : Prop :=
  ∀ count fields, r.rest = id :: count :: fields → r.readBatch = layout.bind fun l =>
    match l.read? count fields with
    | none => .error (.io .endOfData)
    | some (timestamp, samples, rest) =>
      .ok (some (stampSamples id (timestamp - totalIncrement samples) samples, { r with rest }))

lemma readsBy_get (r : RecordReader) (id : UInt8) : r.ReadsBy id (r.layouts.get id) := by
  intro count fields hrest
  rw [readBatch, hrest, batch, LayoutTable.get]
  cases r.layouts.find? id with
  | none => rfl
  | some l =>
    dsimp only [Except.bind]
    cases l.read? count fields <;> rfl

lemma of_ofBytes {bytes : List UInt8} {r : RecordReader} (h : ofBytes bytes = .ok r) : r.IsCompiled := by
  obtain ⟨-, -, -, -, hlayouts⟩ := ofBytes_cases h
  exact hlayouts

lemma Reads.isCompiled {r r' : RecordReader} {found : List (List Frame)} (h : Reads r found r') (hr : r.IsCompiled) :
    r'.descriptor = r.descriptor ∧ r'.IsCompiled := by
  rw [h.eq_with]
  exact ⟨rfl, hr⟩

end RecordReader

namespace Descriptor

open RecordReader (twoKinds mixedCalls)

/-- The frames of an id are written and read as the descriptor of the writer or reader gives it: the id is unknown if
and only if the descriptor does not describe it, and else the formats are those of its last description. -/
theorem layout_of_last_description (d : Descriptor) (id : UInt8) :
    (∀ (σ ω : Type) [RecordSink σ ω] (sink : σ) (writer : RecordWriter σ) (w₀ w : ω) (calls : List WriterCall),
      RecordWriter.create sink d w₀ = (.ok (), writer, w) →
        ∃ layout, d.Gives id layout ∧ (writer.run w calls).2.1.WritesBy id layout) ∧
    ∀ (bytes : List UInt8) (r r' : RecordReader) (found : List (List Frame)),
      RecordReader.ofBytes bytes = .ok r → r.descriptor = d → RecordReader.Reads r found r' →
        ∃ layout, d.Gives id layout ∧ r'.ReadsBy id layout := by
  constructor
  · intro σ ω _ sink writer w₀ w calls hcreate
    obtain ⟨rfl, hcompiled⟩ := RecordWriter.of_create hcreate
    have hwrites := (writer.run w calls).2.1.writesBy_get id
    rw [(writer.run_same w calls).2] at hwrites
    exact ⟨_, LayoutTable.gives hcompiled id, hwrites⟩
  · rintro bytes r r' found hread rfl hreads
    obtain ⟨hsame, hcompiled⟩ := hreads.isCompiled (RecordReader.of_ofBytes hread)
    exact ⟨_, hsame ▸ LayoutTable.gives hcompiled id, r'.readsBy_get id⟩

/-- Of two kinds of frames the second one is described once and the first one twice. -/
theorem layout_of_last_description_twoKinds :
    ∃ (writer : RecordWriter MemorySink) (r : RecordReader) (written read : Except RecordingError FrameLayout),
      RecordWriter.create {} twoKinds () = (.ok (), writer, ()) ∧
      RecordReader.ofBytes (twoKinds.toBytes ++ headerEnd ++ [1, 0, 0, 7, 200, 3, 0]) = .ok r ∧
      r.descriptor = twoKinds ∧ twoKinds.Gives 2 written ∧ (writer.run () mixedCalls).2.1.WritesBy 2 written ∧
      twoKinds.Gives 1 read ∧ r.ReadsBy 1 read ∧
      written = .ok ⟨⟨.little, .uint64⟩, some ⟨.little, .uint8⟩, [⟨.big, .int16⟩]⟩ ∧
      read = .ok ⟨⟨.big, .uint16⟩, none, [⟨.big, .int8⟩, ⟨.little, .uint16⟩]⟩ := by
  have hcreate : RecordWriter.create ({} : MemorySink) twoKinds () = (.ok (), _, ()) := rfl
  have hread : RecordReader.ofBytes (twoKinds.toBytes ++ headerEnd ++ [1, 0, 0, 7, 200, 3, 0]) =
      .ok ⟨twoKinds, twoKinds.frames.map fun f => (f.id, f.fields), [1, 0, 0, 7, 200, 3, 0]⟩ := by decide +kernel
  obtain ⟨written, hwritten, hwrites⟩ :=
    (layout_of_last_description twoKinds 2).1 _ _ _ _ _ _ mixedCalls hcreate
  obtain ⟨read, hgives, hreads⟩ := (layout_of_last_description twoKinds 1).2 _ _ _ _ hread rfl (.nil _)
  refine ⟨_, _, written, read, hcreate, hread, rfl, hwritten, hwrites, hgives, hreads, ?_, ?_⟩
  · obtain ⟨last, l, hlast, hl, rfl⟩ := hwritten.known _ rfl
    obtain rfl := Except.ok.inj hlast
    exact hl.symm
  · obtain ⟨last, l, hlast, hl, rfl⟩ := hgives.known _ rfl
    obtain rfl := Except.ok.inj hlast
    exact hl.symm

/-- The first description of an id, which `frame` finds, is not the one that its frames are written by. -/
theorem first_description_ignored :
    let d : Descriptor :=
      { frames := [{ id := 1, axes := [{ datatype := some ⟨.little, .uint8⟩ }] },
        { id := 1, axes := [{ datatype := some ⟨.little, .uint16⟩ }] }] }
    ∃ (writer : RecordWriter MemorySink) (f : FrameDescription),
      RecordWriter.create {} d () = (.ok (), writer, ()) ∧ d.frame 1 = .ok f ∧
      f.layout = .ok ⟨⟨.little, .uint64⟩, none, [⟨.little, .uint8⟩]⟩ ∧
      (writer.write 1 (.uint 7) [.uint 5] ()).2.1.sink.stored =
        writer.sink.stored ++ [1, 0, 7, 0, 0, 0, 0, 0, 0, 0, 5, 0] ∧
      ¬ writer.WritesBy 1 f.layout := by
  intro d
  refine ⟨_, _, rfl, rfl, rfl, by decide +kernel, fun h => ?_⟩
  have hone := congrArg (fun result => result.2.1.sink.stored.length) (h.one (.uint 7) [.uint 5] () rfl)
  exact absurd hone (by decide +kernel)

end Descriptor

end FieldStudy
