import Mathlib.Data.List.Basic
import Mathlib.Tactic.Common
import FieldStudy.Recording.Writer

/-!
# Runs of a recording writer

A sink `Keeps` what it is given when each write adds the whole piece to the bytes that it has stored, or fails
and adds nothing.  On such a sink a call either adds the bytes of one frame or nothing
(`RecordWriter.call_adds`), and which of the two it is can be told from the call, from its outcome and from
whether the writer was paused (`CallRecord.frame?`).
-/

namespace FieldStudy

/-- A sink that stores pieces as a whole: a write that fails has stored nothing, and nothing but a write
changes what is stored. -/
structure RecordSink.Keeps {σ ω : Type} [RecordSink σ ω] (stored : σ → ω → List UInt8) : Prop where
  write_ok : ∀ s bytes w s' w',
    RecordSink.write s bytes w = (.ok (), s', w') → stored s' w' = stored s w ++ bytes
  write_error : ∀ s bytes w e s' w',
    RecordSink.write s bytes w = (.error e, s', w') → stored s' w' = stored s w
  setPaused : ∀ s paused w, stored (RecordSink.setPaused (ω := ω) s paused) w = stored s w
  flush : ∀ s w r s' w', RecordSink.flush s w = (r, s', w') → stored s' w' = stored s w
  close : ∀ s w r s' w', RecordSink.close s w = (r, s', w') → stored s' w' = stored s w

/-! ## Calls -/

/-- A call on a writer. -/
inductive WriterCall
  | write (id : UInt8) (timestamp : Scalar) (values : List Scalar)
  | writeMulti (id : UInt8) (timestamp : Scalar) (samples : List Sample)
  | setPaused (paused : Bool)
  | flush
  | close
deriving DecidableEq, Repr

/-- The id, the time and the samples of the frame that a call is to write; none if it is not to write any. -/
def WriterCall.frame? : WriterCall → Option (UInt8 × Scalar × List Sample)
  | .write id timestamp values => some (id, timestamp, [⟨.zero, values⟩])
  | .writeMulti id timestamp samples =>
    if samples.isEmpty then none else some (id, timestamp, samples)
  | .setPaused _ | .flush | .close => none

/-- A call that was made, whether the writer was paused then, and its outcome. -/
structure CallRecord where
  call : WriterCall
  paused : Bool
  outcome : Except RecordingError Unit

/-- The frame that a call has written: that of the call, if the writer was not paused and the call
succeeded. -/
def CallRecord.frame? (r : CallRecord) : Option (UInt8 × Scalar × List Sample) :=
  match r.paused, r.outcome with
  | false, .ok () => r.call.frame?
  | _, _ => none

namespace CallRecord

lemma frame?_of_paused {r : CallRecord} (h : r.paused = true) : r.frame? = none := by
  simp [frame?, h]

lemma frame?_of_error {r : CallRecord} {e : RecordingError} (h : r.outcome = .error e) :
    r.frame? = none := by
  rw [frame?, h]
  cases r.paused <;> rfl

lemma frame?_of_call {r : CallRecord} (h : r.call.frame? = none) : r.frame? = none := by
  rw [frame?, h]
  split <;> rfl

lemma call_frame? {r : CallRecord} {frame : UInt8 × Scalar × List Sample} (h : r.frame? = some frame) :
    r.call.frame? = some frame := by
  rw [frame?] at h
  split at h
  · exact h
  · simp at h

/-- The bytes that a call adds to a recording with these layouts: those of the frame that it has written. -/
inductive Adds (layouts : LayoutTable) (r : CallRecord) : List UInt8 → Prop
  | frame {id : UInt8} {timestamp : Scalar} {samples : List Sample} {l : FrameLayout}
    (hframe : r.frame? = some (id, timestamp, samples)) (hl : layouts.find? id = some l)
    (hne : samples ≠ []) (hmax : samples.length ≤ maxSamples)
    (hone : l.increment = none → samples.length = 1) :
    Adds layouts r (l.frameBytes id timestamp samples)
  | nothing (hframe : r.frame? = none) : Adds layouts r []

end CallRecord

namespace RecordWriter

variable {σ ω : Type} [RecordSink σ ω]

def call (writer : RecordWriter σ) (w : ω) :
    WriterCall → Except RecordingError Unit × RecordWriter σ × ω
  | .write id timestamp values => writer.write id timestamp values w
  | .writeMulti id timestamp samples => writer.writeMulti id timestamp samples w
  | .setPaused paused => (.ok (), writer.setPaused paused, w)
  | .flush => writer.flush w
  | .close => writer.close w

/-- Makes calls one after another, whatever their outcomes. -/
def run (writer : RecordWriter σ) (w : ω) : List WriterCall → List CallRecord × RecordWriter σ × ω
  | [] => ([], writer, w)
  | c :: rest =>
    let (outcome, writer', w') := writer.call w c
    let (records, last) := writer'.run w' rest
    (⟨c, writer.paused, outcome⟩ :: records, last)

/-! ## What calls store -/

lemma map_get_eq_ok {layouts : LayoutTable} {id : UInt8} {f : FrameLayout → List UInt8}
    {bytes : List UInt8} (h : (layouts.get id).map f = .ok bytes) :
    ∃ l, layouts.find? id = some l ∧ f l = bytes := by
  rw [LayoutTable.get] at h
  cases hl : layouts.find? id with
  | none => simp [hl, Except.map] at h
  | some l => exact ⟨l, rfl, by simpa [hl, Except.map] using h⟩

lemma bind_multi_eq_ok {layouts : LayoutTable} {id : UInt8} {timestamp : Scalar} {samples : List Sample}
    {bytes : List UInt8} (h : (layouts.get id).bind (·.multi id timestamp samples) = .ok bytes) :
    ∃ l, layouts.find? id = some l ∧ l.increment ≠ none ∧ l.frameBytes id timestamp samples = bytes := by
  rw [LayoutTable.get] at h
  cases hl : layouts.find? id with
  | none => simp [hl, Except.bind] at h
  | some l =>
    by_cases hi : l.increment = none
    · simp [hl, Except.bind, FrameLayout.multi_of_none hi] at h
    · exact ⟨l, rfl, hi, by simpa [hl, Except.bind, FrameLayout.multi_eq_frameBytes hi] using h⟩

/-- A writer is made if the descriptor has a table and the sink takes its text and the end of that. -/
lemma create_cases {sink : σ} {d : Descriptor} {writer : RecordWriter σ} {w w' : ω}
    (h : create sink d w = (.ok (), writer, w')) :
    ∃ layouts sink₁ sink₂ w₁, LayoutTable.ofDescriptor d = .ok layouts ∧ put sink d.toBytes w = (.ok (), sink₁, w₁) ∧
      put sink₁ headerEnd w₁ = (.ok (), sink₂, w') ∧ writer = ⟨sink₂, d, layouts, false⟩ := by
  rw [create] at h
  cases hlayouts : LayoutTable.ofDescriptor d with
  | error e => simp [hlayouts] at h
  | ok layouts =>
    rw [hlayouts] at h
    rcases htext : put sink d.toBytes w with ⟨r, sink₁, w₁⟩
    cases r with
    | error e => simp [htext, adopt, Except.mapError] at h
    | ok u =>
      rcases hend : put sink₁ headerEnd w₁ with ⟨r, sink₂, w₂⟩
      cases r with
      | error e => simp [htext, hend, adopt, Except.mapError] at h
      | ok u =>
        obtain ⟨rfl, rfl⟩ : (⟨sink₂, d, layouts, false⟩ : RecordWriter σ) = writer ∧ w₂ = w' := by
          simpa [htext, hend, adopt, Except.mapError] using h
        exact ⟨layouts, sink₁, sink₂, w₁, rfl, rfl, hend, rfl⟩

section Stored

variable {stored : σ → ω → List UInt8} (hs : RecordSink.Keeps stored)
variable {writer writer' : RecordWriter σ} {w w' : ω} {outcome : Except RecordingError Unit}
include hs

lemma put_ok {sink sink' : σ} {bytes : List UInt8} (h : put sink bytes w = (.ok (), sink', w')) :
    stored sink' w' = stored sink w ++ bytes := by
  rw [put] at h
  by_cases hb : bytes.isEmpty
  · rw [if_pos hb] at h
    obtain ⟨rfl, rfl⟩ : sink = sink' ∧ w = w' := by simpa using h
    simp [List.isEmpty_iff.1 hb]
  · rw [if_neg hb] at h
    exact hs.write_ok _ _ _ _ _ h

lemma put_error {sink sink' : σ} {bytes : List UInt8} {e : IoError}
    (h : put sink bytes w = (.error e, sink', w')) : stored sink' w' = stored sink w := by
  rw [put] at h
  by_cases hb : bytes.isEmpty
  · rw [if_pos hb] at h
    simp at h
  · rw [if_neg hb] at h
    exact hs.write_error _ _ _ _ _ _ h

/-- A frame is stored as a whole, or reported missing and not stored at all. -/
lemma putFrame_cases {frame : Except RecordingError (List UInt8)}
    (h : writer.putFrame frame w = (outcome, writer', w')) :
    writer'.layouts = writer.layouts ∧
      ((∃ bytes, frame = .ok bytes ∧ outcome = .ok () ∧
          stored writer'.sink w' = stored writer.sink w ++ bytes) ∨
        ((∃ e, outcome = .error e) ∧ stored writer'.sink w' = stored writer.sink w)) := by
  cases frame with
  | error e =>
    obtain ⟨rfl, rfl, rfl⟩ : .error e = outcome ∧ writer = writer' ∧ w = w' := by
      simpa [putFrame] using h
    exact ⟨rfl, .inr ⟨⟨e, rfl⟩, rfl⟩⟩
  | ok bytes =>
    rcases hput : put writer.sink bytes w with ⟨r, sink, w₁⟩
    obtain ⟨rfl, rfl, rfl⟩ : r.mapError .io = outcome ∧ { writer with sink } = writer' ∧ w₁ = w' := by
      simpa [putFrame, adopt, hput] using h
    refine ⟨rfl, ?_⟩
    cases r with
    | ok u => exact .inl ⟨bytes, rfl, rfl, put_ok hs hput⟩
    | error e => exact .inr ⟨⟨_, rfl⟩, put_error hs hput⟩

/-- A call adds the bytes of its frame to what is stored, or nothing. -/
theorem call_adds {c : WriterCall} (h : writer.call w c = (outcome, writer', w')) :
    writer'.layouts = writer.layouts ∧ ∃ bytes, CallRecord.Adds writer.layouts ⟨c, writer.paused, outcome⟩ bytes ∧
      stored writer'.sink w' = stored writer.sink w ++ bytes := by
  cases c with
  | write id timestamp values =>
    rw [call, write] at h
    by_cases hp : writer.paused = true
    · rw [if_pos hp] at h
      obtain ⟨rfl, rfl, rfl⟩ : .ok () = outcome ∧ writer = writer' ∧ w = w' := by simpa using h
      exact ⟨rfl, [], .nothing (CallRecord.frame?_of_paused hp), by simp⟩
    · rw [if_neg hp] at h
      obtain ⟨hlayouts, ⟨bytes, hframe, rfl, hstored⟩ | ⟨⟨e, rfl⟩, hstored⟩⟩ := putFrame_cases hs h
      · obtain ⟨l, hl, rfl⟩ := map_get_eq_ok hframe
        rw [l.single_eq_frameBytes] at hstored
        refine ⟨hlayouts, _, .frame ?_ hl (by simp) (by simp [maxSamples]) (fun _ => rfl), hstored⟩
        simp [CallRecord.frame?, WriterCall.frame?, hp]
      · exact ⟨hlayouts, [], .nothing (CallRecord.frame?_of_error rfl), by simpa using hstored⟩
  | writeMulti id timestamp samples =>
    rw [call, writeMulti] at h
    by_cases hp : (writer.paused || samples.isEmpty) = true
    · rw [if_pos hp] at h
      obtain ⟨rfl, rfl, rfl⟩ : .ok () = outcome ∧ writer = writer' ∧ w = w' := by simpa using h
      refine ⟨rfl, [], .nothing ?_, by simp⟩
      rcases Bool.or_eq_true _ _ ▸ hp with hp | he
      · exact CallRecord.frame?_of_paused hp
      · exact CallRecord.frame?_of_call (by simp [WriterCall.frame?, he])
    rw [if_neg hp] at h
    obtain ⟨hp, hne⟩ : writer.paused = false ∧ samples ≠ [] := by simpa using hp
    by_cases hmax : maxSamples < samples.length
    · rw [if_pos hmax] at h
      obtain ⟨rfl, rfl, rfl⟩ : .error (.tooManySamples samples.length) = outcome ∧ writer = writer' ∧ w = w' := by
        simpa using h
      exact ⟨rfl, [], .nothing (CallRecord.frame?_of_error rfl), by simp⟩
    · rw [if_neg hmax] at h
      obtain ⟨hlayouts, ⟨bytes, hframe, rfl, hstored⟩ | ⟨⟨e, rfl⟩, hstored⟩⟩ := putFrame_cases hs h
      · obtain ⟨l, hl, hincrement, rfl⟩ := bind_multi_eq_ok hframe
        refine ⟨hlayouts, _, .frame ?_ hl hne (by omega) (fun h => absurd h hincrement), hstored⟩
        simp [CallRecord.frame?, WriterCall.frame?, hp, hne]
      · exact ⟨hlayouts, [], .nothing (CallRecord.frame?_of_error rfl), by simpa using hstored⟩
  | setPaused paused =>
    obtain ⟨rfl, rfl, rfl⟩ : .ok () = outcome ∧ writer.setPaused paused = writer' ∧ w = w' := by
      simpa [call] using h
    refine ⟨rfl, [], .nothing (CallRecord.frame?_of_call rfl), ?_⟩
    simpa [setPaused] using hs.setPaused writer.sink paused w
  | flush =>
    rcases hflush : RecordSink.flush writer.sink w with ⟨r, sink, w₁⟩
    obtain ⟨-, rfl, rfl⟩ : r.mapError .io = outcome ∧ { writer with sink } = writer' ∧ w₁ = w' := by
      simpa [call, RecordWriter.flush, adopt, hflush] using h
    exact ⟨rfl, [], .nothing (CallRecord.frame?_of_call rfl), by simpa using hs.flush _ _ _ _ _ hflush⟩
  | close =>
    rcases hclose : RecordSink.close writer.sink w with ⟨r, sink, w₁⟩
    obtain ⟨-, rfl, rfl⟩ : r.mapError .io = outcome ∧ { writer with sink } = writer' ∧ w₁ = w' := by
      simpa [call, RecordWriter.close, adopt, hclose] using h
    exact ⟨rfl, [], .nothing (CallRecord.frame?_of_call rfl), by simpa using hs.close _ _ _ _ _ hclose⟩

/-- A writer that was made has stored the text of its descriptor and the end of that text. -/
lemma create_stored {sink : σ} {d : Descriptor} (h : create sink d w = (.ok (), writer, w')) :
    LayoutTable.ofDescriptor d = .ok writer.layouts ∧
      stored writer.sink w' = stored sink w ++ (d.toBytes ++ headerEnd) := by
  obtain ⟨layouts, sink₁, sink₂, w₁, hlayouts, htext, hend, rfl⟩ := create_cases h
  exact ⟨hlayouts, by rw [put_ok hs hend, put_ok hs htext, List.append_assoc]⟩

end Stored

end RecordWriter

lemma MemorySink.keeps : RecordSink.Keeps fun (s : MemorySink) (_ : Unit) => s.stored where
  write_ok s bytes w s' w' h := by
    by_cases ha : s.accepts bytes
    · obtain rfl : s.append bytes = s' := by simpa [RecordSink.write, ha] using h
      rfl
    · simp [RecordSink.write, ha] at h
  write_error s bytes w e s' w' h := by
    by_cases ha : s.accepts bytes
    · simp [RecordSink.write, ha] at h
    · obtain ⟨-, rfl⟩ : _ ∧ s = s' := by simpa [RecordSink.write, ha] using h
      rfl
  setPaused _ _ _ := rfl
  flush s w r s' w' h := by
    obtain ⟨-, rfl⟩ : _ ∧ s.tell .flush = s' := by simpa [RecordSink.flush] using h
    rfl
  close s w r s' w' h := by
    obtain ⟨-, rfl⟩ : _ ∧ s.tell .close = s' := by simpa [RecordSink.close] using h
    rfl

end FieldStudy
