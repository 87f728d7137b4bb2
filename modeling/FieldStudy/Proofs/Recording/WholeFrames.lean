import Mathlib.Data.List.Basic
import Mathlib.Tactic.Common
import FieldStudy.Proofs.Recording.Layouts

/-!
# Frames are written whole or not at all

A call that is to write samples either hands its sink one complete frame, in one write, or does not turn to the sink at
all and leaves the writer as it was (`RecordWriter.PutsFrame`).  A frame without samples would be taken for one of 256,
and a frame of an unknown id for no frame at all; so what a call checks before it writes is just what makes its bytes a
frame (`LayoutTable.isFrame_frameBytes`).  One sample is the same frame from both calls, if the layout has increments
(`RecordWriter.puts_whole_frames`).
-/

namespace FieldStudy

/-! ## Frames of samples -/

/-- The bytes are as long as a frame of so many samples, and their first two say whose and of how many. -/
structure FrameLayout.IsFrameOf (l : FrameLayout) (id : UInt8) (count : Nat) (frame : List UInt8) : Prop where
  names : frame[0]? = some id
  counts : ∃ b, frame[1]? = some b ∧ b.toNat + 1 = count
  length : frame.length = 2 + l.timestamp.size + count * (l.incrementSize + l.axesSize)

variable {id : UInt8} {l : FrameLayout} {samples : List Sample}

lemma FrameLayout.isFrameOf_frameBytes (l : FrameLayout) (id : UInt8) (timestamp : Scalar) (hne : samples ≠ [])
    (hmax : samples.length ≤ maxSamples) : l.IsFrameOf id samples.length (l.frameBytes id timestamp samples) where
  names := rfl
  counts := ⟨UInt8.ofNat (samples.length - 1), rfl, toNat_count hne hmax⟩
  length := l.length_frameBytes id timestamp samples

/-- The bytes of samples are a frame for the table, unless there are several samples and no increments. -/
lemma LayoutTable.isFrame_frameBytes {layouts : LayoutTable} (hl : layouts.find? id = some l) (timestamp : Scalar)
    (hne : samples ≠ []) (hmax : samples.length ≤ maxSamples) (hone : l.increment = none → samples.length = 1) :
    layouts.IsFrame (l.frameBytes id timestamp samples) := by
  refine frameLength?_eq_some_iff.2 ⟨id, UInt8.ofNat (samples.length - 1), _, l, rfl, hl, ?_⟩
  rw [FrameLayout.frameLength_eq, FrameLayout.sampleCount_length hne hmax hone, FrameLayout.length_frameBytes,
    Nat.add_assoc]

/-! ## Calls -/

namespace RecordWriter

variable {σ ω : Type} [RecordSink σ ω] {writer : RecordWriter σ} {w : ω}

/-- What comes of a call that is to write `count` samples of an id, where `idle` says when it has nothing to write. -/
structure PutsFrame (writer : RecordWriter σ) (id : UInt8) (count : Nat) (idle : Prop) (w : ω)
    (result : Except RecordingError Unit × RecordWriter σ × ω) : Prop where
  /-- Then the writer is left as it was, with its sink and what surrounds that. -/
  leaves : idle → result.2 = (writer, w)
  /-- Else the sink is given one frame in one write, and what comes of this is the outcome.  A sink that refuses the
  frame leaves all as it was, and one that stores whole pieces has stored the frame, or nothing if it failed. -/
  puts : ¬idle → ∃ l frame, writer.layouts.find? id = some l ∧ l.IsFrameOf id count frame ∧
    writer.layouts.IsFrame frame ∧ result = writer.adopt (RecordSink.write writer.sink frame w) ∧
    (∀ e, RecordSink.write writer.sink frame w = (.error e, writer.sink, w) → result = (.error (.io e), writer, w)) ∧
    ∀ stored : σ → ω → List UInt8, RecordSink.Keeps stored →
      (result.1 = .ok () → stored result.2.1.sink result.2.2 = stored writer.sink w ++ frame) ∧
      ∀ e, result.1 = .error e → stored result.2.1.sink result.2.2 = stored writer.sink w

lemma put_of_ne_nil {bytes : List UInt8} (h : bytes ≠ []) (sink : σ) (w : ω) :
    put sink bytes w = RecordSink.write sink bytes w := by
  rw [put, if_neg (by simpa using h)]

/-- Bytes that the sink is given are stored if the outcome is good, and else nothing is. -/
lemma stored_of_adopt {stored : σ → ω → List UInt8} (hs : RecordSink.Keeps stored) {frame : List UInt8}
    {result : Except RecordingError Unit × RecordWriter σ × ω}
    (h : result = writer.adopt (RecordSink.write writer.sink frame w)) :
    (result.1 = .ok () → stored result.2.1.sink result.2.2 = stored writer.sink w ++ frame) ∧
      ∀ e, result.1 = .error e → stored result.2.1.sink result.2.2 = stored writer.sink w := by
  subst h
  rcases hwrite : RecordSink.write writer.sink frame w with ⟨outcome, sink', w'⟩
  cases outcome with
  | ok u => exact ⟨fun _ => hs.write_ok _ _ _ _ _ hwrite, fun e he => nomatch he⟩
  | error e => exact ⟨fun h => (nomatch h), fun _ _ => hs.write_error _ _ _ _ _ _ hwrite⟩

/-- A call that puts the bytes of its samples to the sink puts a whole frame. -/
lemma putsFrame_of_frameBytes {result : Except RecordingError Unit × RecordWriter σ × ω} {idle : Prop}
    (samples : List Sample) (timestamp : Scalar) (hidle : idle → result.2 = (writer, w))
    (hframe : ¬idle → ∃ l, writer.layouts.find? id = some l ∧ samples ≠ [] ∧ samples.length ≤ maxSamples ∧
      (l.increment = none → samples.length = 1) ∧
      result = writer.putFrame (.ok (l.frameBytes id timestamp samples)) w) :
    writer.PutsFrame id samples.length idle w result := by
  refine ⟨hidle, fun hbusy => ?_⟩
  obtain ⟨l, hl, hne, hmax, hone, rfl⟩ := hframe hbusy
  have hput : writer.putFrame (.ok (l.frameBytes id timestamp samples)) w =
      writer.adopt (RecordSink.write writer.sink (l.frameBytes id timestamp samples) w) :=
    congrArg writer.adopt (put_of_ne_nil (by simp [FrameLayout.frameBytes]) _ _)
  rw [hput]
  refine ⟨l, _, hl, l.isFrameOf_frameBytes id timestamp hne hmax,
    LayoutTable.isFrame_frameBytes hl timestamp hne hmax hone, rfl, fun e hrefused => ?_, fun stored hs => ?_⟩
  · rw [hrefused]
    rfl
  · exact stored_of_adopt hs rfl

lemma putsFrame_write (writer : RecordWriter σ) (id : UInt8) (timestamp : Scalar) (values : List Scalar) (w : ω) :
    writer.PutsFrame id 1 (writer.paused = true ∨ writer.layouts.find? id = none) w
      (writer.write id timestamp values w) := by
  refine putsFrame_of_frameBytes [⟨.zero, values⟩] timestamp ?_ fun hbusy => ?_
  · rintro (hpaused | hunknown)
    · simp [write, hpaused]
    · by_cases hpaused : writer.paused = true
      · simp [write, hpaused]
      · simp [write, hpaused, LayoutTable.get, hunknown, putFrame, Except.map]
  · obtain ⟨hpaused, hknown⟩ := not_or.1 hbusy
    obtain ⟨l, hl⟩ := Option.ne_none_iff_exists'.1 hknown
    refine ⟨l, hl, by simp, by simp [maxSamples], fun _ => rfl, ?_⟩
    rw [(writer.writesBy_get id).one timestamp values w (by simpa using hpaused), LayoutTable.get, hl,
      ← l.single_eq_frameBytes]
    rfl

lemma putsFrame_writeMulti (writer : RecordWriter σ) (id : UInt8) (timestamp : Scalar) (samples : List Sample)
    (w : ω) :
    writer.PutsFrame id samples.length
      (writer.paused = true ∨ samples = [] ∨ 256 < samples.length ∨ writer.layouts.find? id = none ∨
        ∃ l, writer.layouts.find? id = some l ∧ l.increment = none) w
      (writer.writeMulti id timestamp samples w) := by
  refine putsFrame_of_frameBytes samples timestamp (fun hidle => ?_) fun hbusy => ?_
  · by_cases hnone : (writer.paused || samples.isEmpty) = true
    · simp [writeMulti, hnone]
    by_cases hmany : maxSamples < samples.length
    · simp [writeMulti, hnone, hmany]
    -- What is left is an id without a layout or with one that has no increments.
    obtain ⟨hpaused, hne⟩ : writer.paused = false ∧ samples ≠ [] := by simpa using hnone
    rw [(writer.writesBy_get id).several timestamp samples w hpaused hne (by omega), LayoutTable.get]
    obtain hp | hs | hm | hunknown | ⟨l, hl, hsingle⟩ := hidle
    · exact absurd hp (by simp [hpaused])
    · exact absurd hs hne
    · exact absurd hm hmany
    · rw [hunknown]
      rfl
    · simp [hl, Except.bind, FrameLayout.multi_of_none hsingle, putFrame]
  · simp only [not_or, not_exists, not_and] at hbusy
    obtain ⟨hpaused, hne, hmany, hknown, hmulti⟩ := hbusy
    obtain ⟨l, hl⟩ := Option.ne_none_iff_exists'.1 hknown
    have hmax : samples.length ≤ maxSamples := Nat.le_of_not_lt hmany
    refine ⟨l, hl, hne, hmax, fun hi => absurd hi (hmulti l hl), ?_⟩
    rw [(writer.writesBy_get id).several timestamp samples w (by simpa using hpaused) hne hmax, LayoutTable.get, hl]
    simp [Except.bind, FrameLayout.multi_eq_frameBytes (hmulti l hl)]

/-- On a layout with increments one sample is written alike by both calls.  A call writes one whole frame of its
samples, in one write of the sink, and nothing else; it writes nothing if the writer is paused, if there are no samples
or more than 256, if the id is unknown, or if there are no increments for a call that may have several samples. -/
theorem puts_whole_frames (writer : RecordWriter σ) (id : UInt8) (timestamp : Scalar) (w : ω) :
    (∀ l values, writer.layouts.find? id = some l → l.increment ≠ none →
      writer.write id timestamp values w = writer.writeMulti id timestamp [⟨.int 0, values⟩] w) ∧
    (∀ values, writer.PutsFrame id 1 (writer.paused = true ∨ writer.layouts.find? id = none) w
      (writer.write id timestamp values w)) ∧
    ∀ samples, writer.PutsFrame id samples.length
      (writer.paused = true ∨ samples = [] ∨ 256 < samples.length ∨ writer.layouts.find? id = none ∨
        ∃ l, writer.layouts.find? id = some l ∧ l.increment = none) w
      (writer.writeMulti id timestamp samples w) := by
  refine ⟨fun l values hl hmulti => ?_, fun values => putsFrame_write writer id timestamp values w,
    fun samples => putsFrame_writeMulti writer id timestamp samples w⟩
  by_cases hpaused : writer.paused = true
  · simp [write, writeMulti, hpaused]
  · have hrunning : writer.paused = false := by simpa using hpaused
    rw [(writer.writesBy_get id).one timestamp values w hrunning,
      (writer.writesBy_get id).several timestamp _ w hrunning (by simp) (by simp [maxSamples]), LayoutTable.get, hl]
    simp [Except.map, Except.bind, FrameLayout.single_eq_frameBytes, FrameLayout.multi_eq_frameBytes hmulti,
      Scalar.zero]

/-- A sink that has room for a frame of one sample, but not for one of 256. -/
theorem puts_whole_frames_smallSink :
    let writer : RecordWriter MemorySink :=
      ⟨{ stored := [9], capacity := some 20 }, RecordReader.twoKinds,
        RecordReader.twoKinds.frames.map fun f => (f.id, f.fields), false⟩
    let samples : List Sample := List.replicate 256 ⟨.int 1, [.int 7]⟩
    writer.write 2 (.uint 5) [.int 7] () = writer.writeMulti 2 (.uint 5) [⟨.int 0, [.int 7]⟩] () ∧
      (∃ frame : List UInt8, frame.length = 13 ∧ frame[1]? = some 0 ∧
        (writer.write 2 (.uint 5) [.int 7] ()).2.1.sink.stored = [9] ++ frame) ∧
      (∃ frame : List UInt8, frame.length = 778 ∧ frame[1]? = some 255 ∧ writer.layouts.IsFrame frame) ∧
      writer.writeMulti 2 (.uint 5) samples () = (.error (.io (.refused "sink full")), writer, ()) := by
  intro writer samples
  have hl : writer.layouts.find? 2 = some ⟨⟨.little, .uint64⟩, some ⟨.little, .uint8⟩, [⟨.big, .int16⟩]⟩ := by decide
  have hlayout : ∀ l, writer.layouts.find? 2 = some l →
      l = ⟨⟨.little, .uint64⟩, some ⟨.little, .uint8⟩, [⟨.big, .int16⟩]⟩ :=
    fun l h => Option.some.inj (h.symm.trans hl)
  have hlength : samples.length = 256 := List.length_replicate
  have hbusy : ¬(writer.paused = true ∨ samples = [] ∨ 256 < samples.length ∨ writer.layouts.find? 2 = none ∨
      ∃ l, writer.layouts.find? 2 = some l ∧ l.increment = none) := by
    simp only [not_or, not_exists, not_and]
    refine ⟨by decide, List.ne_nil_of_length_pos (by omega), by omega, by simp [hl], fun l h => ?_⟩
    rw [hlayout l h]
    nofun
  obtain ⟨hsame, hone, hseveral⟩ := puts_whole_frames writer 2 (.uint 5) ()
  obtain ⟨l₁, frame₁, hl₁, hof₁, -, -, -, hstored⟩ := (hone [.int 7]).puts (by decide)
  obtain ⟨l₂, frame₂, hl₂, hof₂, hframe, -, hrefused, -⟩ := (hseveral samples).puts hbusy
  obtain rfl := hlayout l₁ hl₁
  obtain rfl := hlayout l₂ hl₂
  obtain ⟨b₁, hb₁, hcount₁⟩ := hof₁.counts
  obtain ⟨b₂, hb₂, hcount₂⟩ := hof₂.counts
  obtain rfl : b₁ = 0 := UInt8.toNat_inj.1 (by simpa using hcount₁)
  obtain rfl : b₂ = 255 := UInt8.toNat_inj.1 (Nat.succ.inj (hcount₂.trans hlength))
  have hlength₂ : frame₂.length = 778 := by
    rw [hof₂.length, hlength]
    rfl
  refine ⟨hsame _ [.int 7] hl (by simp), ⟨frame₁, hof₁.length, hb₁, (hstored _ MemorySink.keeps).1 (by decide)⟩,
    ⟨frame₂, hlength₂, hb₂, hframe⟩, hrefused _ ?_⟩
  have hroom : writer.sink.accepts frame₂ = false := by
    simp [writer, MemorySink.accepts, hlength₂]
  simp [RecordSink.write, hroom]

end RecordWriter

end FieldStudy
