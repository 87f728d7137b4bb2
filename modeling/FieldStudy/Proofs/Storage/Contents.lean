import Mathlib.Data.List.Basic
import FieldStudy.Proofs.Recording.PhoneFile
import FieldStudy.Proofs.Storage.LoggerRuns

/-!
# Contents of files by path

What the operations on a store do to the contents at one path, in a store in which no two paths stand for one file.
-/

namespace FieldStudy

namespace FileStore

variable {s s' : FileStore} {folder p q : Path} {name : String} {id : Nat} {data : List UInt8}

lemma contentsAt_of_find? (h : s.find? p = some (.file id)) : s.contentsAt p = s.bytes id := by
  rw [contentsAt, read?_of_find? h]
  rfl

/-- The contents at a path depend on no other file. -/
lemma contentsAt_congr (hfind : s'.find? p = s.find? p)
    (hbytes : ∀ id, s.find? p = some (.file id) → s'.bytes id = s.bytes id) : s'.contentsAt p = s.contentsAt p := by
  rw [contentsAt, contentsAt, read?, read?, hfind]
  split
  · next id hid => rw [hbytes id hid]
  · rfl

lemma Furnished.contentsAt (h : Furnished s s') (p : Path) : s'.contentsAt p = s.contentsAt p := by
  rw [FileStore.contentsAt, FileStore.contentsAt, read?, read?]
  cases hs : s.find? p with
  | some e =>
    rw [h.within p e hs]
    cases e with
    | folder => rfl
    | file id => simp [FileStore.bytes, h.contents]
  | none =>
    cases hs' : s'.find? p with
    | none => rfl
    | some e =>
      cases e with
      | folder => rfl
      | file id =>
        rw [h.file p id hs'] at hs
        cases hs

/-- Opening a file adds nothing to any. -/
lemma Opened.contentsAt (h : Opened s s' folder name p id) (hs : s.Sound 0) (q : Path) :
    s'.contentsAt q = s.contentsAt q := by
  by_cases hqp : q = p
  · subst hqp
    rw [contentsAt_of_find? h.find]
    obtain hold | ⟨hnone, -, hempty⟩ := h.new
    · rw [contentsAt_of_find? hold, h.bytes id (hs.lt q id hold)]
    · rw [hempty, FileStore.contentsAt, read?, hnone]
      rfl
  · exact contentsAt_congr (h.find_of_ne q hqp) fun i hi => h.bytes i (hs.lt q i hi)

lemma write_contentsAt_of_ne (hs : s.Sound 0) (hwrite : s.write folder name data = .ok s')
    (hp : s.locate folder name ≠ .ok p) : s'.contentsAt p = s.contentsAt p := by
  obtain ⟨q, id, hreplaced, -, hne⟩ := replaced hs hwrite
  have hpq : p ≠ q := fun heq => hp (heq ▸ hreplaced.place)
  exact contentsAt_congr (hreplaced.find_of_ne p hpq) fun i hi =>
    hreplaced.bytes i (Ne.symm (hne p i (Nat.zero_le _) hi hpq)) (hs.lt p i hi)

/-- What replaces the contents of a file is read back from it, also where the file is new. -/
lemma read?_of_write {n : Nat} (hs : s.Sound n) (hwrite : s.write folder name data = .ok s')
    (hplace : s.locate folder name = .ok p) : s'.read? p = some data := by
  rw [write] at hwrite
  cases hopen : s.openAppend folder name with
  | error e =>
    rw [hopen] at hwrite
    cases hwrite
  | ok found =>
    obtain ⟨id, s₁⟩ := found
    rw [hopen] at hwrite
    obtain rfl := Except.ok.inj hwrite
    obtain ⟨q, hopened⟩ := opened hs hopen
    obtain rfl : p = q := Except.ok.inj (hplace.symm.trans hopened.place)
    have hfind : FileStore.find? { s₁ with contents := s₁.contents.set id data } p = some (.file id) := hopened.find
    rw [read?_of_find? hfind]
    simp [bytes, hopened.lt]

namespace Appended

lemma contentsAt_of_ne (h : Appended s s' id data) (hs : s.Sound 0) (hfind : s.find? q = some (.file id))
    (hpq : p ≠ q) : s'.contentsAt p = s.contentsAt p := by
  refine contentsAt_congr (h.find p) fun i hi => h.bytes_of_ne i ?_
  rintro rfl
  exact hpq (hs.inj p q i (Nat.zero_le _) hi hfind)

end Appended

end FileStore

end FieldStudy
