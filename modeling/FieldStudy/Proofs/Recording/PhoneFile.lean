import Mathlib.Data.List.Basic
import Mathlib.Tactic.Common
import FieldStudy.Proofs.Recording.Phone
import FieldStudy.Proofs.Storage.FileLogger

/-!
# Recordings of a phone in files

A writer of phone frames over a logger: what has been written stands in the file and behind it in the logger
(`RecordWriter.Serves`).  Creating, writing, pausing and closing are described by the file alone, whatever number of
writes the logger keeps back.
-/

namespace FieldStudy

namespace RecordWriter

/-- The header of every recording of a phone. -/
def phoneHeader : List UInt8 := (Phone.descriptor true true).toBytes ++ headerEnd

/-- The writer appends to the file `id`, for which `image` has been written so far. -/
structure Serves (files : FileStore) (id : Nat) (w : RecordWriter FileLogger) (paused : Bool)
    (image : List UInt8) : Prop where
  layouts : w.layouts = Phone.layouts
  writerPaused : w.paused = paused
  sinkPaused : w.sink.paused = paused
  handle : w.sink.handle = some id
  bytes : files.bytes id ++ w.sink.pending = image

namespace Serves

variable {files files' : FileStore} {id : Nat} {w : RecordWriter FileLogger} {paused : Bool} {image : List UInt8}

lemma transfer (h : Serves files id w paused image) (hbytes : files'.bytes id = files.bytes id) :
    Serves files' id w paused image :=
  ⟨h.layouts, h.writerPaused, h.sinkPaused, h.handle, hbytes ▸ h.bytes⟩

lemma setPaused (h : Serves files id w paused image) (p : Bool) : Serves files id (w.setPaused p) p image :=
  ⟨h.layouts, rfl, rfl, h.handle, h.bytes⟩

/-- Closing leaves the whole recording in the file. -/
lemma close (h : Serves files id w paused image) (hid : id < files.contents.length) :
    ∃ data, files.Appended (w.close files).2.2 id data ∧ (w.close files).2.2.bytes id = image := by
  have hclose : files.Appended (w.close files).2.2 id w.sink.pending := FileLogger.close_open h.handle hid
  exact ⟨_, hclose, hclose.bytes.trans h.bytes⟩

/-- A sample is written as its frame, or dropped while the writer is paused. -/
lemma write (h : Serves files id w paused image) (hid : id < files.contents.length) {frame : UInt8}
    {sensor : String} (hframe : SensorType.frameId? sensor = some frame) (timestamp : UInt64)
    (values : List Single) :
    ∃ w' files' data, w.write frame (.uint timestamp) (values.map fun v => .float v.toDouble) files =
        (.ok (), w', files') ∧ files.Appended files' id data ∧
      Serves files' id w' paused
        (if paused then image else image ++ (⟨frame, timestamp, values⟩ : PhoneSample).bytes) := by
  cases hpaused : paused with
  | true =>
    have hwpaused : w.paused = true := h.writerPaused.trans hpaused
    refine ⟨w, files, [], ?_, .refl files id, ?_⟩
    · rw [RecordWriter.write, if_pos hwpaused]
    · rw [if_pos rfl]
      exact hpaused ▸ h
  | false =>
    have hwpaused : w.paused = false := h.writerPaused.trans hpaused
    obtain ⟨layout, hlayout, hbytes⟩ := PhoneSample.single_layout hframe timestamp values
    obtain ⟨l, files', moved, hwrite, hhandle, hlike, happended, hpending⟩ :=
      FileLogger.write_open h.handle hid (h.sinkPaused.trans hpaused) (⟨frame, timestamp, values⟩ : PhoneSample).bytes
    refine ⟨{ w with sink := l }, files', moved, ?_, happended, ?_⟩
    · have hput : put w.sink (⟨frame, timestamp, values⟩ : PhoneSample).bytes files = (.ok (), l, files') := by
        rw [put, if_neg (by simp [PhoneSample.bytes])]
        exact hwrite
      have hbody : (w.layouts.get frame).map
          (·.single frame (.uint timestamp) (values.map fun v => .float v.toDouble)) =
          .ok (⟨frame, timestamp, values⟩ : PhoneSample).bytes := by
        rw [h.layouts, hlayout, Except.map, hbytes]
      rw [RecordWriter.write, if_neg (by simp [hwpaused]), hbody, putFrame, hput]
      rfl
    · refine ⟨h.layouts, hwpaused, hlike.paused.trans (h.sinkPaused.trans hpaused), hhandle, ?_⟩
      have himage : files'.bytes id ++ l.pending =
          image ++ (⟨frame, timestamp, values⟩ : PhoneSample).bytes := by
        rw [happended.bytes, List.append_assoc, hpending, ← List.append_assoc, h.bytes]
      exact himage

end Serves

/-! ## Creating -/

/-- A recording is created in the file that its logger opens, with the header for its contents. -/
lemma create_phone {l : FileLogger} {files files' : FileStore} {w : RecordWriter FileLogger} {n : Nat}
    (hs : files.Sound n) (hhandle : l.handle = none) (hpending : l.pending = []) (hpaused : l.paused = false)
    (h : create l (Phone.descriptor true true) files = (.ok (), w, files')) :
    ∃ p id files₁ data, files.Opened files₁ l.folder l.file p id ∧ files₁.Appended files' id data ∧
      Serves files' id w false (files₁.bytes id ++ phoneHeader) := by
  have hheader : (Phone.descriptor true true).toBytes.isEmpty = false := by decide +kernel
  rw [create, Phone.layouts_descriptor] at h
  dsimp only at h
  rw [put, hheader, if_neg Bool.false_ne_true] at h
  cases hopen : l.openFile files with
  | error e =>
    have hwrite := FileLogger.write_of_failure hopen hpaused (Phone.descriptor true true).toBytes
    rw [show RecordSink.write l (Phone.descriptor true true).toBytes files = (.error e, l, files) from hwrite] at h
    cases h
  | ok found =>
    obtain ⟨id, files₁⟩ := found
    have happend : files.openAppend l.folder l.file = .ok (id, files₁) := by
      simpa [FileLogger.openFile, hhandle] using hopen
    obtain ⟨p, hopened⟩ := FileStore.opened hs happend
    obtain ⟨l₂, files₂, data₂, hwrite₂, hhandle₂, hlike₂, hbytes₂, hpending₂⟩ :=
      FileLogger.write_open (l := { l with handle := some id }) rfl hopened.lt hpaused
        (Phone.descriptor true true).toBytes
    have hid₂ : id < files₂.contents.length := hbytes₂.length ▸ hopened.lt
    obtain ⟨l₃, files₃, data₃, hwrite₃, hhandle₃, hlike₃, hbytes₃, hpending₃⟩ :=
      FileLogger.write_open hhandle₂ hid₂ (hlike₂.paused.trans hpaused) headerEnd
    have hfirst : RecordSink.write l (Phone.descriptor true true).toBytes files = (.ok (), l₂, files₂) :=
      (FileLogger.write_of_openFile hopen hpaused _).trans hwrite₂
    have hsecond : put l₂ headerEnd files₂ = (.ok (), l₃, files₃) := hwrite₃
    rw [hfirst] at h
    have hput : adopt ⟨l₂, Phone.descriptor true true, Phone.layouts, false⟩ (put l₂ headerEnd files₂) =
        (.ok (), w, files') := h
    rw [hsecond] at hput
    obtain ⟨-, hrest⟩ := Prod.mk.inj hput
    obtain ⟨rfl, rfl⟩ := Prod.mk.inj hrest
    have hdata : files₁.Appended files₃ id (data₂ ++ data₃) := hbytes₂.trans hbytes₃
    refine ⟨p, id, files₁, _, hopened, hdata, rfl, rfl, (hlike₃.paused.trans hlike₂.paused).trans hpaused, hhandle₃,
      ?_⟩
    have himage : files₃.bytes id ++ l₃.pending = files₁.bytes id ++ phoneHeader := by
      rw [hdata.bytes, List.append_assoc, List.append_assoc, hpending₃, ← List.append_assoc data₂, hpending₂]
      simp [hpending, phoneHeader]
    exact himage

/-! ## Names of files -/

section Within

variable (w : RecordWriter FileLogger) (files : FileStore)

lemma put_within (l : FileLogger) (data : List UInt8) : files.Within (put l data files).2.2 := by
  rw [put]
  split
  · exact .refl files
  · exact l.write_within data files

lemma write_within (frame : UInt8) (timestamp : Scalar) (values : List Scalar) :
    files.Within (w.write frame timestamp values files).2.2 := by
  rw [write]
  split
  · exact .refl files
  · cases (w.layouts.get frame).map (·.single frame timestamp values) with
    | ok bytes => exact put_within files w.sink bytes
    | error e => exact .refl files

lemma close_within : files.Within (w.close files).2.2 := w.sink.close_within files

lemma create_within (l : FileLogger) (d : Descriptor) : files.Within (create l d files).2.2 := by
  rw [create]
  split
  · exact .refl files
  · next layouts _ =>
    dsimp only
    have hfirst := put_within files l d.toBytes
    split
    · next hput =>
      obtain ⟨-, hrest⟩ := Prod.mk.inj hput
      obtain ⟨-, rfl⟩ := Prod.mk.inj hrest
      exact hfirst.trans (put_within _ _ headerEnd)
    · exact hfirst

end Within

end RecordWriter

end FieldStudy
