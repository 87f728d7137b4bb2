import Mathlib.Data.List.Basic
import Mathlib.Tactic.Common
import FieldStudy.Proofs.Recording.PhoneFile

/-!
# Numbers of files

A file is known by its number, and what the number stands for are its bytes.  No operation makes a name for a number
without bytes (`FileStore.Numbered`), whatever is open and however names and loggers overlap.  So what is written as the
whole contents of a file is read back from there.
-/

namespace FieldStudy

namespace FileStore

/-- The number of every file is in range. -/
def Numbered (s : FileStore) : Prop := ∀ p id, s.find? p = some (.file id) → id < s.contents.length

variable {s s' : FileStore} {folder p : Path} {name : String} {id : Nat} {data : List UInt8}

/-- It is enough to look through the names that exist. -/
lemma numbered_of_entries
    (h : s.entries.all (fun e => match e.2 with | .folder => true | .file id => id < s.contents.length) = true) :
    s.Numbered := by
  intro p id hp
  rw [find?] at hp
  split at hp
  · cases hp
  · obtain ⟨e, he, hfile⟩ := Option.map_eq_some_iff.mp hp
    have hentry := List.all_eq_true.mp h e (List.mem_of_find?_eq_some he)
    rw [hfile] at hentry
    exact of_decide_eq_true hentry

lemma Numbered.of_find? (h : s.Numbered) (hfind : ∀ p, s'.find? p = s.find? p)
    (hlength : s'.contents.length = s.contents.length) : s'.Numbered :=
  fun p id hp => hlength ▸ h p id (hfind p ▸ hp)

lemma Numbered.append (h : s.Numbered) (id : Nat) (data : List UInt8) : (s.append id data).Numbered :=
  h.of_find? (fun _ => rfl) (length_append s id data)

lemma Numbered.openAppend (h : s.Numbered) (hopen : s.openAppend folder name = .ok (id, s')) : s'.Numbered := by
  obtain ⟨p, -, ⟨-, rfl⟩ | ⟨-, rfl, rfl⟩⟩ := openAppend_cases hopen
  · exact h
  · intro q i hq
    have hnames : (s.add p (.file s.contents.length)).find? q = some (.file i) := hq
    rw [find?_add] at hnames
    show i < (s.contents ++ [[]]).length
    rw [List.length_append, List.length_singleton]
    cases hold : s.find? q with
    | some e =>
      rw [hold, Option.some_or] at hnames
      exact Nat.lt_succ_of_lt (h q i (hold.trans hnames))
    | none =>
      rw [hold, Option.none_or] at hnames
      split at hnames
      · obtain rfl := FileEntry.file.inj (Option.some.inj hnames)
        exact Nat.lt_succ_self _
      · cases hnames

lemma Numbered.write (h : s.Numbered) (hwrite : s.write folder name data = .ok s') : s'.Numbered := by
  rw [FileStore.write] at hwrite
  cases hopen : s.openAppend folder name with
  | error e =>
    rw [hopen] at hwrite
    cases hwrite
  | ok found =>
    rw [hopen] at hwrite
    obtain rfl := Except.ok.inj hwrite
    exact (h.openAppend hopen).of_find? (fun _ => rfl) List.length_set

lemma Furnished.numbered (hfurnished : Furnished s s') (h : s.Numbered) : s'.Numbered :=
  fun p id hp => hfurnished.contents ▸ h p id (hfurnished.file p id hp)

/-- What replaces the contents of a file is read back from it. -/
lemma read?_write (h : s.Numbered) (hplace : s.locate folder name = .ok p) (hfind : s.find? p = some (.file id))
    (data : List UInt8) :
    ∃ s', s.write folder name data = .ok s' ∧ s'.read? p = some data := by
  refine ⟨{ s with contents := s.contents.set id data }, ?_, ?_⟩
  · simp [FileStore.write, FileStore.openAppend, hplace, hfind, Except.map]
  · have hsame : FileStore.find? { s with contents := s.contents.set id data } p = some (.file id) := hfind
    rw [read?_of_find? hsame]
    simp [bytes, h p id hfind]

end FileStore

/-! ## Loggers -/

namespace FileLogger

variable {s : FileStore}

lemma numbered_openFile {l : FileLogger} {id : Nat} {s' : FileStore} (h : s.Numbered)
    (hopen : l.openFile s = .ok (id, s')) : s'.Numbered := by
  unfold openFile at hopen
  split at hopen
  · obtain ⟨-, rfl⟩ := Prod.mk.inj (Except.ok.inj hopen)
    exact h
  · exact h.openAppend hopen

lemma numbered_flush (l : FileLogger) (h : s.Numbered) : (l.flush s).2.2.Numbered := by
  rw [flush]
  split
  · exact h
  · dsimp only
    split
    · exact h
    · next hopen => exact (numbered_openFile h hopen).append _ _

lemma numbered_write (l : FileLogger) (data : List UInt8) (h : s.Numbered) : (l.write data s).2.2.Numbered := by
  rw [write]
  split
  · exact h
  · split
    · exact h
    · next hopen =>
      dsimp only
      split
      · exact numbered_flush _ (numbered_openFile h hopen)
      · exact numbered_openFile h hopen

end FileLogger

namespace RecordWriter

variable {files : FileStore}

lemma numbered_put (l : FileLogger) (data : List UInt8) (h : files.Numbered) : (put l data files).2.2.Numbered := by
  rw [put]
  split
  · exact h
  · exact l.numbered_write data h

lemma numbered_write (w : RecordWriter FileLogger) (frame : UInt8) (timestamp : Scalar) (values : List Scalar)
    (h : files.Numbered) : (w.write frame timestamp values files).2.2.Numbered := by
  rw [write]
  split
  · exact h
  · cases (w.layouts.get frame).map (·.single frame timestamp values) with
    | ok bytes => exact numbered_put w.sink bytes h
    | error e => exact h

lemma numbered_create (l : FileLogger) (d : Descriptor) (h : files.Numbered) : (create l d files).2.2.Numbered := by
  rw [create]
  split
  · exact h
  · dsimp only
    have hfirst := numbered_put l d.toBytes h
    split
    · next hput =>
      obtain ⟨-, hrest⟩ := Prod.mk.inj hput
      obtain ⟨-, rfl⟩ := Prod.mk.inj hrest
      exact numbered_put _ headerEnd hfirst
    · exact hfirst

end RecordWriter

end FieldStudy
