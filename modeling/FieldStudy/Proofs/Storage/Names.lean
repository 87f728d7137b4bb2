import Mathlib.Data.List.Basic
import Mathlib.Tactic.Common
import FieldStudy.Proofs.Dict
import FieldStudy.Proofs.Storage.FileLogger

/-!
# Names without bytes

Which files there are, and whether an operation on them succeeds, does not depend on the bytes in them or on what
loggers keep back.  A store, a logger and a writer without these are `bare`, and what an operation comes to is the same
for whatever is alike without them.
-/

namespace FieldStudy

namespace FileStore

/-- The store with all of its files empty. -/
def bare (s : FileStore) : FileStore := { s with contents := List.replicate s.contents.length [] }

variable {s s' : FileStore}

lemma bare_of_same (hentries : s'.entries = s.entries) (hlength : s'.contents.length = s.contents.length) :
    s'.bare = s.bare := by
  rw [bare, bare, hentries, hlength]

@[simp] lemma bare_bare (s : FileStore) : s.bare.bare = s.bare := bare_of_same rfl (List.length_replicate ..)

@[simp] lemma bare_append (s : FileStore) (id : Nat) (data : List UInt8) : (s.append id data).bare = s.bare :=
  bare_of_same rfl (length_append s id data)

lemma walk_bare (s : FileStore) (base : Path) (steps : List String) : s.bare.walk base steps = s.walk base steps := by
  induction steps generalizing base with
  | nil => rfl
  | cons name rest ih =>
    cases rest with
    | nil => rfl
    | cons next more =>
      unfold walk
      rw [ih, ih]
      rfl

lemma locate_bare (s : FileStore) (folder : Path) (name : String) :
    s.bare.locate folder name = s.locate folder name := by
  simp only [locate, walk_bare]
  rfl

/-- Where a name leads, whether a file can be opened there and which number it gets is a matter of names. -/
lemma openAppend_bare (s : FileStore) (folder : Path) (name : String) :
    s.bare.openAppend folder name = (s.openAppend folder name).map fun x => (x.1, x.2.bare) := by
  rw [openAppend, openAppend, locate_bare]
  cases s.locate folder name with
  | error e => rfl
  | ok p =>
    dsimp only
    rw [show s.bare.find? p = s.find? p from rfl]
    cases s.find? p with
    | none =>
      have hlength : s.bare.contents.length = s.contents.length := List.length_replicate ..
      dsimp only [Except.map]
      rw [hlength]
      simp [bare, add, List.replicate_succ']
    | some e =>
      cases e with
      | folder => rfl
      | file id => rfl

/-- Replacing a file is a matter of names but for its bytes. -/
lemma write_congr (h : s.bare = s'.bare) (folder : Path) (name : String) (data data' : List UInt8) :
    (s.write folder name data).map bare = (s'.write folder name data').map bare := by
  have hopen (t : FileStore) (bytes : List UInt8) :
      (t.write folder name bytes).map bare = (t.bare.openAppend folder name).map (·.2) := by
    rw [openAppend_bare, write]
    cases t.openAppend folder name with
    | error e => rfl
    | ok x => exact congrArg Except.ok (bare_of_same rfl (List.length_set ..))
  rw [hopen, hopen, h]

/-- Replacing a file that is there leaves the names as they are. -/
lemma write_of_find {folder p : Path} {name : String} {id : Nat} (hplace : s.locate folder name = .ok p)
    (hfind : s.find? p = some (.file id)) (data : List UInt8) :
    ∃ s', s.write folder name data = .ok s' ∧ s'.bare = s.bare := by
  refine ⟨{ s with contents := s.contents.set id data }, ?_, bare_of_same rfl (List.length_set ..)⟩
  simp [write, openAppend, hplace, hfind, Except.map]

/-- A file that has been replaced is there. -/
lemma placed_of_write {folder : Path} {name : String} {data : List UInt8} (h : s.write folder name data = .ok s') :
    ∃ p id, s'.locate folder name = .ok p ∧ s'.find? p = some (.file id) := by
  have hwithin := write_within h
  rw [write] at h
  cases hopen : s.openAppend folder name with
  | error e =>
    rw [hopen] at h
    cases h
  | ok found =>
    obtain ⟨id, s₁⟩ := found
    obtain ⟨p, hplace, ⟨hfind, rfl⟩ | ⟨hnone, -, rfl⟩⟩ := openAppend_cases hopen
    · rw [hopen] at h
      obtain rfl := Except.ok.inj h
      exact ⟨p, id, locate_within hwithin hplace, hfind⟩
    · rw [hopen] at h
      obtain rfl := Except.ok.inj h
      refine ⟨p, id, locate_within hwithin hplace, ?_⟩
      show (s.add p (.file id)).find? p = some (.file id)
      simp [find?_add, hnone]

end FileStore

namespace FileLogger

/-- The logger without what it keeps back. -/
def bare (l : FileLogger) : FileLogger := { l with pending := [], pendingCount := 0 }

variable {l l' : FileLogger} {s s' : FileStore}

@[simp] lemma bare_bare (l : FileLogger) : l.bare.bare = l.bare := rfl

/-- What an operation of a logger comes to, but for bytes. -/
def outline (x : Except IoError Unit × FileLogger × FileStore) : Except IoError Unit × FileLogger × FileStore :=
  (x.1, x.2.1.bare, x.2.2.bare)

lemma openFile_bare (l : FileLogger) (s : FileStore) :
    l.bare.openFile s.bare = (l.openFile s).map fun x => (x.1, x.2.bare) := by
  rw [openFile, openFile]
  cases hhandle : l.handle with
  | none =>
    rw [show l.bare.handle = none from hhandle]
    exact s.openAppend_bare l.folder l.file
  | some id =>
    rw [show l.bare.handle = some id from hhandle]
    rfl

/-- An open logger can always append. -/
lemma outline_flush {id : Nat} (h : l.handle = some id) (s : FileStore) :
    outline (l.flush s) = (.ok (), l.bare, s.bare) := by
  have hopen : l.openFile s = .ok (id, s) := by simp [openFile, h]
  rw [flush]
  split
  · rfl
  · dsimp only
    rw [hopen, outline]
    dsimp only
    rw [FileStore.bare_append]
    simp [bare, h]

/-- A write succeeds if the file can be opened, whatever is kept back. -/
lemma outline_write (l : FileLogger) (data : List UInt8) (s : FileStore) :
    outline (l.write data s) =
      if l.bare.paused then (.ok (), l.bare, s.bare)
      else match l.bare.openFile s.bare with
        | .error e => (.error e, l.bare, s.bare)
        | .ok (id, s) => (.ok (), { l.bare with handle := some id }, s) := by
  rw [write, openFile_bare, show l.bare.paused = l.paused from rfl]
  split
  · rfl
  · cases l.openFile s with
    | error e => rfl
    | ok x =>
      obtain ⟨id, s₁⟩ := x
      dsimp only [Except.map]
      split
      · exact outline_flush rfl s₁
      · rfl

lemma write_congr (hl : l.bare = l'.bare) (hs : s.bare = s'.bare) (data data' : List UInt8) :
    outline (l.write data s) = outline (l'.write data' s') := by
  rw [outline_write, outline_write, hl, hs]

/-- A write to an open logger leaves the names as they are. -/
lemma outline_write_open {id : Nat} (h : l.handle = some id) (data : List UInt8) (s : FileStore) :
    outline (l.write data s) = (.ok (), l.bare, s.bare) := by
  have hopen : l.bare.openFile s.bare = .ok (id, s.bare) := by simp [openFile, bare, h]
  rw [outline_write, hopen]
  split
  · rfl
  · simp [bare, h]

/-- Closing always succeeds and leaves the names as they are. -/
lemma close_bare (l : FileLogger) (s : FileStore) : (l.close s).1 = .ok () ∧ (l.close s).2.2.bare = s.bare := by
  rw [close]
  cases hhandle : l.handle with
  | none => exact ⟨rfl, rfl⟩
  | some id =>
    have hflush := outline_flush hhandle s
    exact ⟨congrArg Prod.fst hflush, congrArg (·.2.2) hflush⟩

end FileLogger

namespace RecordWriter

/-- The writer without what its logger keeps back. -/
def bare (w : RecordWriter FileLogger) : RecordWriter FileLogger := { w with sink := w.sink.bare }

/-- What an operation of a writer comes to, but for bytes. -/
def outline (x : Except RecordingError Unit × RecordWriter FileLogger × FileStore) :
    Except RecordingError Unit × RecordWriter FileLogger × FileStore :=
  (x.1, x.2.1.bare, x.2.2.bare)

variable {l l' : FileLogger} {s s' : FileStore} {w : RecordWriter FileLogger}

lemma put_congr (hl : l.bare = l'.bare) (hs : s.bare = s'.bare) (data : List UInt8) :
    FileLogger.outline (put l data s) = FileLogger.outline (put l' data s') := by
  rw [put, put]
  split
  · rw [FileLogger.outline, FileLogger.outline, hl, hs]
  · exact FileLogger.write_congr hl hs data data

lemma outline_adopt (w : RecordWriter FileLogger) (x : Except IoError Unit × FileLogger × FileStore) :
    outline (w.adopt x) = w.bare.adopt (FileLogger.outline x) := rfl

/-- Whether a record can be created is a matter of names. -/
lemma create_congr (hs : s.bare = s'.bare) (l : FileLogger) (d : Descriptor) :
    outline (create l d s) = outline (create l d s') := by
  rw [create, create]
  cases LayoutTable.ofDescriptor d with
  | error e => rw [outline, outline, hs]
  | ok layouts =>
    dsimp only
    have hfirst : outline (RecordWriter.adopt ⟨l, d, layouts, false⟩ (put l d.toBytes s)) =
        outline (RecordWriter.adopt ⟨l, d, layouts, false⟩ (put l d.toBytes s')) := by
      rw [outline_adopt, outline_adopt, put_congr (l := l) rfl hs]
    generalize RecordWriter.adopt ⟨l, d, layouts, false⟩ (put l d.toBytes s) = x at hfirst
    generalize RecordWriter.adopt ⟨l, d, layouts, false⟩ (put l d.toBytes s') = y at hfirst
    obtain ⟨result, w, t⟩ := x
    obtain ⟨result', w', t'⟩ := y
    obtain ⟨hresult, hrest⟩ := Prod.mk.inj hfirst
    obtain ⟨hw, ht⟩ := Prod.mk.inj hrest
    dsimp only at hresult hw ht
    subst hresult
    cases result with
    | error e => rw [outline, outline, hw, ht]
    | ok done =>
      dsimp only
      rw [outline_adopt, outline_adopt, hw, put_congr (congrArg RecordWriter.sink hw) ht]

/-- A writer that has been created has its file open. -/
lemma create_handle {d : Descriptor} (hpaused : l.paused = false) (h : create l d s = (.ok (), w, s')) :
    w.sink.handle.isSome = true := by
  have hwrite {l l₁ : FileLogger} {s s₁ : FileStore} (data : List UInt8) (hpaused : l.paused = false)
      (h : l.write data s = (.ok (), l₁, s₁)) : l₁.handle.isSome = true ∧ l₁.paused = false := by
    have houtline := l.outline_write data s
    rw [h, show l.bare.paused = false from hpaused, if_neg Bool.false_ne_true] at houtline
    split at houtline
    · cases houtline
    · next id t _ =>
      obtain ⟨-, hrest⟩ := Prod.mk.inj houtline
      have hbare : l₁.bare = { l.bare with handle := some id } := (Prod.mk.inj hrest).1
      have hhandle : l₁.handle = some id := congrArg FileLogger.handle hbare
      exact ⟨hhandle ▸ rfl, (congrArg FileLogger.paused hbare).trans hpaused⟩
  rw [create] at h
  cases hlayouts : LayoutTable.ofDescriptor d with
  | error e => simp [hlayouts] at h
  | ok layouts =>
    rw [hlayouts] at h
    dsimp only at h
    have hfirst : (put l d.toBytes s).2.1.paused = false ∨ ∃ e, (put l d.toBytes s).1 = .error e := by
      rw [put]
      split
      · exact .inl hpaused
      · cases hresult : RecordSink.write l d.toBytes s with
        | mk result rest =>
          cases result with
          | error e => exact .inr ⟨e, rfl⟩
          | ok done => exact .inl (hwrite d.toBytes hpaused hresult).2
    generalize put l d.toBytes s = x at h hfirst
    obtain ⟨result, l₁, s₁⟩ := x
    cases result with
    | error e => cases h
    | ok done =>
      have hlast : RecordWriter.adopt ⟨l₁, d, layouts, false⟩ (put l₁ headerEnd s₁) = (.ok (), w, s') := h
      have hopen : l₁.paused = false := hfirst.elim id fun ⟨e, he⟩ => by cases he
      cases hput : put l₁ headerEnd s₁ with
      | mk result rest =>
        rw [hput] at hlast
        cases result with
        | error e => cases hlast
        | ok done =>
          obtain ⟨l₂, s₂⟩ := rest
          obtain ⟨-, hrest⟩ := Prod.mk.inj hlast
          obtain ⟨rfl, -⟩ := Prod.mk.inj hrest
          exact (hwrite headerEnd hopen hput).1

/-- Writing a frame to an open writer leaves the names as they are. -/
lemma write_bare (h : w.sink.handle.isSome = true) (frame : UInt8) (timestamp : Scalar) (values : List Scalar)
    (s : FileStore) :
    (w.write frame timestamp values s).2.1.bare = w.bare ∧ (w.write frame timestamp values s).2.2.bare = s.bare := by
  obtain ⟨id, hid⟩ := Option.isSome_iff_exists.mp h
  have hput (data : List UInt8) : (w.adopt (put w.sink data s)).2.1.bare = w.bare ∧
      (w.adopt (put w.sink data s)).2.2.bare = s.bare := by
    have hwrite : (FileLogger.outline (put w.sink data s)).2 = (w.sink.bare, s.bare) := by
      rw [put]
      split
      · rfl
      · exact congrArg Prod.snd (FileLogger.outline_write_open hid data s)
    obtain ⟨hsink, hfiles⟩ := Prod.mk.inj hwrite
    exact ⟨congrArg (fun sink => ({ w with sink } : RecordWriter FileLogger)) hsink, hfiles⟩
  rw [write]
  split
  · exact ⟨rfl, rfl⟩
  · cases (w.layouts.get frame).map (·.single frame timestamp values) with
    | ok bytes => exact hput bytes
    | error e => exact ⟨rfl, rfl⟩

/-- Closing a record always succeeds and leaves the names as they are. -/
lemma close_bare (w : RecordWriter FileLogger) (s : FileStore) :
    (w.close s).1 = .ok () ∧ (w.close s).2.2.bare = s.bare := by
  obtain ⟨hresult, hfiles⟩ := w.sink.close_bare s
  have hclose : (w.close s).1 = (w.sink.close s).1.mapError .io := rfl
  exact ⟨by rw [hclose, hresult]; rfl, hfiles⟩

end RecordWriter

end FieldStudy
