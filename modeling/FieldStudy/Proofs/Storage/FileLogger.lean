import Mathlib.Data.List.Basic
import Mathlib.Tactic.Common
import FieldStudy.Proofs.Storage.FileStore
import FieldStudy.Storage.FileLogger

/-!
# What a logger leaves in its file

The bytes of the file of a logger and those that it keeps back are, one after the other, all that was written to
it.  A write moves the boundary between the two and touches no other file; closing leaves nothing behind it.
-/

namespace FieldStudy

/-- One store is the other with data behind the contents of one file. -/
structure FileStore.Appended (s s' : FileStore) (id : Nat) (data : List UInt8) : Prop where
  find : ∀ p, s'.find? p = s.find? p
  length : s'.contents.length = s.contents.length
  bytes : s'.bytes id = s.bytes id ++ data
  bytes_of_ne : ∀ other, other ≠ id → s'.bytes other = s.bytes other

namespace FileStore.Appended

variable {s s' s₂ : FileStore} {id : Nat} {data more : List UInt8}

lemma refl (s : FileStore) (id : Nat) : Appended s s id [] :=
  ⟨fun _ => rfl, rfl, (List.append_nil _).symm, fun _ _ => rfl⟩

lemma append (h : id < s.contents.length) (data : List UInt8) : Appended s (s.append id data) id data :=
  ⟨fun _ => rfl, length_append s id data, bytes_append_self data h,
    fun _ hne => bytes_append_of_ne s data (Ne.symm hne)⟩

lemma trans (h : Appended s s' id data) (h' : Appended s' s₂ id more) : Appended s s₂ id (data ++ more) where
  find p := (h'.find p).trans (h.find p)
  length := h'.length.trans h.length
  bytes := by rw [h'.bytes, h.bytes, List.append_assoc]
  bytes_of_ne other hne := (h'.bytes_of_ne other hne).trans (h.bytes_of_ne other hne)

lemma within (h : Appended s s' id data) : Within s s' := .of_find? h.find

lemma sound {n : Nat} (h : Appended s s' id data) (hs : s.Sound n) : s'.Sound n :=
  hs.of_find? h.find h.length

end FileStore.Appended

namespace FileLogger

variable {l : FileLogger} {s : FileStore} {id : Nat}

/-- A logger like another one, but for what it has open and keeps back. -/
structure Like (l l' : FileLogger) : Prop where
  folder : l'.folder = l.folder
  file : l'.file = l.file
  paused : l'.paused = l.paused

lemma flush_open (h : l.handle = some id) (hid : id < s.contents.length) :
    ∃ l' s', l.flush s = (.ok (), l', s') ∧ l'.handle = some id ∧ l'.pending = [] ∧ Like l l' ∧
      s.Appended s' id l.pending := by
  rw [flush]
  split
  · next hempty =>
    have hnil : l.pending = [] := List.isEmpty_iff.mp hempty
    exact ⟨_, s, rfl, h, hnil, ⟨rfl, rfl, rfl⟩, hnil ▸ .refl s id⟩
  · have hopen : l.openFile s = .ok (id, s) := by simp [openFile, h]
    dsimp only
    rw [hopen]
    exact ⟨_, _, rfl, rfl, rfl, ⟨rfl, rfl, rfl⟩, .append hid l.pending⟩

/-- What has been written is in the file or kept back, in order. -/
lemma write_open (h : l.handle = some id) (hid : id < s.contents.length) (hpaused : l.paused = false)
    (data : List UInt8) :
    ∃ l' s' moved, l.write data s = (.ok (), l', s') ∧ l'.handle = some id ∧ Like l l' ∧
      s.Appended s' id moved ∧ moved ++ l'.pending = l.pending ++ data := by
  have hopen : l.openFile s = .ok (id, s) := by simp [openFile, h]
  rw [write, if_neg (by simp [hpaused]), hopen]
  dsimp only
  split
  · obtain ⟨l', s', hflush, hhandle, hpending, hlike, hbytes⟩ :=
      flush_open (l := { l with handle := some id, pending := l.pending ++ data, pendingCount := l.pendingCount + 1 })
        rfl hid
    exact ⟨l', s', _, hflush, hhandle, ⟨hlike.folder, hlike.file, hlike.paused⟩, hbytes, by simp [hpending]⟩
  · exact ⟨_, s, [], rfl, rfl, ⟨rfl, rfl, rfl⟩, .refl s id, rfl⟩

/-- The first write opens the file and then writes as if it had been open. -/
lemma write_of_openFile {s₁ : FileStore} (h : l.openFile s = .ok (id, s₁)) (hpaused : l.paused = false)
    (data : List UInt8) : l.write data s = ({ l with handle := some id } : FileLogger).write data s₁ := by
  have hopen : ({ l with handle := some id } : FileLogger).openFile s₁ = .ok (id, s₁) := rfl
  rw [write, write, if_neg (by simp [hpaused]), if_neg (by simp [hpaused]), h, hopen]

lemma write_of_failure {e : IoError} (h : l.openFile s = .error e) (hpaused : l.paused = false)
    (data : List UInt8) : l.write data s = (.error e, l, s) := by
  rw [write, if_neg (by simp [hpaused]), h]

/-- Closing leaves all that was written in the file. -/
lemma close_open (h : l.handle = some id) (hid : id < s.contents.length) :
    s.Appended (l.close s).2.2 id l.pending := by
  obtain ⟨l', s', hflush, -, -, -, hbytes⟩ := flush_open h hid
  simp [close, h, hflush, hbytes]

lemma close_closed (h : l.handle = none) : (l.close s).2.2 = s := by
  simp [close, h]

/-- Closing touches no file but its own, and no names. -/
lemma close_cases (l : FileLogger) (s : FileStore) :
    (l.close s).2.2 = s ∨ ∃ id, l.handle = some id ∧ (l.close s).2.2 = s.append id l.pending := by
  cases h : l.handle with
  | none => exact .inl (close_closed h)
  | some id =>
    rw [close, h]
    dsimp only
    rw [flush]
    split
    · exact .inl rfl
    · have hopen : l.openFile s = .ok (id, s) := by simp [openFile, h]
      dsimp only
      rw [hopen]
      exact .inr ⟨id, rfl, rfl⟩

lemma close_find? (l : FileLogger) (s : FileStore) (p : Path) : (l.close s).2.2.find? p = s.find? p := by
  obtain h | ⟨id, -, h⟩ := l.close_cases s <;> rw [h]
  rfl

lemma close_length (l : FileLogger) (s : FileStore) :
    (l.close s).2.2.contents.length = s.contents.length := by
  obtain h | ⟨id, -, h⟩ := l.close_cases s <;> rw [h]
  exact FileStore.length_append s id _

lemma close_bytes_of_ne (s : FileStore) (h : l.handle ≠ some id) : (l.close s).2.2.bytes id = s.bytes id := by
  obtain hsame | ⟨other, hhandle, happend⟩ := l.close_cases s
  · rw [hsame]
  · rw [happend]
    refine FileStore.bytes_append_of_ne s _ ?_
    rintro rfl
    exact h hhandle

/-! ## Names of files -/

lemma openFile_within {s₁ : FileStore} (h : l.openFile s = .ok (id, s₁)) : s.Within s₁ := by
  unfold openFile at h
  split at h
  · obtain ⟨-, rfl⟩ := Prod.mk.inj (Except.ok.inj h)
    exact .refl s
  · exact FileStore.openAppend_within h

lemma flush_within (l : FileLogger) (s : FileStore) : s.Within (l.flush s).2.2 := by
  rw [flush]
  split
  · exact .refl s
  · dsimp only
    split
    · exact .refl s
    · next hopen => exact (openFile_within hopen).trans (.of_find? fun _ => rfl)

lemma write_within (l : FileLogger) (data : List UInt8) (s : FileStore) : s.Within (l.write data s).2.2 := by
  rw [write]
  split
  · exact .refl s
  · split
    · exact .refl s
    · next hopen =>
      dsimp only
      split
      · exact (openFile_within hopen).trans (flush_within _ _)
      · exact openFile_within hopen

lemma close_within (l : FileLogger) (s : FileStore) : s.Within (l.close s).2.2 := by
  rw [close]
  split
  · exact .refl s
  · exact flush_within l s

end FileLogger

end FieldStudy
