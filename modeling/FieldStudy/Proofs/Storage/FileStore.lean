import Mathlib.Data.List.Basic
import Mathlib.Tactic.Common
import FieldStudy.Proofs.Text.Lines
import FieldStudy.Storage.FileName
import FieldStudy.Storage.FileStore

/-!
# Operations on a store of files

What creating folders, opening, appending and replacing do to a store.  None of them takes a name away or makes it
stand for something else (`FileStore.Within`), so a path that has been found stays where it is
(`FileStore.locate_within`); and the numbers of files that have been made since a store had `n` of them stand for
one path each (`FileStore.Sound`).
-/

namespace FieldStudy

namespace FileStore

/-! ## Looking up -/

lemma find?_add (s : FileStore) (p q : Path) (e : FileEntry) :
    (s.add p e).find? q = (s.find? q).or (if p = q then some e else none) := by
  unfold find? add
  by_cases hq : q.isEmpty = true
  · simp [hq]
  · have hsingle : (([(p, e)] : List (Path × FileEntry)).find? (·.1 == q)).map (·.2) =
        if p = q then some e else none := by
      by_cases hpq : p = q
      · simp [hpq]
      · simp [hpq]
    rw [if_neg hq, if_neg hq, List.find?_append, ← hsingle]
    cases s.entries.find? (·.1 == q) <;> rfl

lemma read?_of_find? {s : FileStore} {p : Path} {id : Nat} (h : s.find? p = some (.file id)) :
    s.read? p = some (s.bytes id) := by
  simp [read?, h]

/-- Every name of one store means the same in the other. -/
def Within (s s' : FileStore) : Prop := ∀ p e, s.find? p = some e → s'.find? p = some e

namespace Within

variable {s s₁ s₂ : FileStore}

lemma refl (s : FileStore) : Within s s := fun _ _ h => h

lemma trans (h : Within s s₁) (h' : Within s₁ s₂) : Within s s₂ := fun p e hp => h' p e (h p e hp)

lemma of_find? (h : ∀ p, s₁.find? p = s.find? p) : Within s s₁ := fun p _ hp => (h p).trans hp

lemma add (s : FileStore) (p : Path) (e : FileEntry) : Within s (s.add p e) := by
  intro q e' hq
  rw [find?_add, hq]
  rfl

end Within

/-! ## Numbers of files -/

/-- Files have numbers in range, and from the number `n` on each stands for one path. -/
structure Sound (n : Nat) (s : FileStore) : Prop where
  le : n ≤ s.contents.length
  lt : ∀ p id, s.find? p = some (.file id) → id < s.contents.length
  inj : ∀ p q id, n ≤ id → s.find? p = some (.file id) → s.find? q = some (.file id) → p = q

lemma Sound.of_find? {n : Nat} {s s' : FileStore} (h : s.Sound n) (hfind : ∀ p, s'.find? p = s.find? p)
    (hlength : s'.contents.length = s.contents.length) : s'.Sound n :=
  ⟨hlength ▸ h.le, fun p id hp => hlength ▸ h.lt p id (hfind p ▸ hp),
    fun p q id hn hp hq => h.inj p q id hn (hfind p ▸ hp) (hfind q ▸ hq)⟩

/-! ## Appending and replacing -/

@[simp] lemma length_append (s : FileStore) (id : Nat) (data : List UInt8) :
    (s.append id data).contents.length = s.contents.length := by
  simp [append]

lemma bytes_append_self {s : FileStore} {id : Nat} (data : List UInt8) (h : id < s.contents.length) :
    (s.append id data).bytes id = s.bytes id ++ data := by
  simp [append, bytes, h]

lemma bytes_append_of_ne (s : FileStore) {id other : Nat} (data : List UInt8) (h : id ≠ other) :
    (s.append id data).bytes other = s.bytes other := by
  simp [append, bytes, h]

/-! ## Opening -/

/-- A file that is opened is found where its name leads, or made there under a new number. -/
lemma openAppend_cases {s s' : FileStore} {folder : Path} {name : String} {id : Nat}
    (h : s.openAppend folder name = .ok (id, s')) :
    ∃ p, s.locate folder name = .ok p ∧
      ((s.find? p = some (.file id) ∧ s' = s) ∨
        (s.find? p = none ∧ id = s.contents.length ∧
          s' = { s.add p (.file id) with contents := s.contents ++ [[]] })) := by
  unfold openAppend at h
  split at h
  · simp at h
  · next p hp =>
    refine ⟨p, hp, ?_⟩
    split at h
    · next id' hid =>
      simp only [Except.ok.injEq, Prod.mk.injEq] at h
      exact .inl ⟨h.1 ▸ hid, h.2.symm⟩
    · simp at h
    · next hnone =>
      simp only [Except.ok.injEq, Prod.mk.injEq] at h
      obtain ⟨rfl, rfl⟩ := h
      exact .inr ⟨hnone, rfl, rfl⟩

lemma openAppend_within {s s' : FileStore} {folder : Path} {name : String} {id : Nat}
    (h : s.openAppend folder name = .ok (id, s')) : Within s s' := by
  obtain ⟨p, -, ⟨-, rfl⟩ | ⟨-, rfl, rfl⟩⟩ := openAppend_cases h
  · exact .refl _
  · exact (Within.add s p _).trans (.of_find? fun _ => rfl)

lemma write_within {s s' : FileStore} {folder : Path} {name : String} {data : List UInt8}
    (h : s.write folder name data = .ok s') : Within s s' := by
  unfold write at h
  cases hopen : s.openAppend folder name with
  | error e =>
    rw [hopen] at h
    cases h
  | ok found =>
    rw [hopen] at h
    obtain rfl := Except.ok.inj h
    exact (openAppend_within hopen).trans (.of_find? fun _ => rfl)

/-- All that opening a file does to a store. -/
structure Opened (s s' : FileStore) (folder : Path) (name : String) (p : Path) (id : Nat) : Prop where
  place : s.locate folder name = .ok p
  find : s'.find? p = some (.file id)
  new : s.find? p = some (.file id) ∨ (s.find? p = none ∧ id = s.contents.length ∧ s'.bytes id = [])
  find_of_ne : ∀ q, q ≠ p → s'.find? q = s.find? q
  bytes : ∀ other, other < s.contents.length → s'.bytes other = s.bytes other
  length : s.contents.length ≤ s'.contents.length
  lt : id < s'.contents.length

/-- A file that is there can be taken as one that has been opened. -/
lemma Opened.of_find {s : FileStore} {folder p : Path} {name : String} {id n : Nat} (hs : s.Sound n)
    (hplace : s.locate folder name = .ok p) (hfind : s.find? p = some (.file id)) :
    Opened s s folder name p id :=
  ⟨hplace, hfind, .inl hfind, fun _ _ => rfl, fun _ _ => rfl, Nat.le_refl _, hs.lt p id hfind⟩

lemma opened {s s' : FileStore} {folder : Path} {name : String} {id n : Nat} (hs : s.Sound n)
    (h : s.openAppend folder name = .ok (id, s')) : ∃ p, Opened s s' folder name p id := by
  obtain ⟨p, hp, ⟨hfound, rfl⟩ | ⟨hnone, rfl, rfl⟩⟩ := openAppend_cases h
  · exact ⟨p, .of_find hs hp hfound⟩
  · have hfind (q : Path) : FileStore.find?
        { s.add p (.file s.contents.length) with contents := s.contents ++ [[]] } q =
        (s.find? q).or (if p = q then some (.file s.contents.length) else none) := s.find?_add p q _
    refine ⟨p, hp, ?_, .inr ⟨hnone, rfl, ?_⟩, fun q hq => ?_, fun other ho => ?_, ?_, ?_⟩
    · rw [hfind, hnone, if_pos rfl]
      rfl
    · simp [FileStore.bytes]
    · rw [hfind, if_neg (Ne.symm hq), Option.or_none]
    · simp [FileStore.bytes, List.getElem?_append, ho]
    · simp
    · simp

namespace Opened

variable {s s' : FileStore} {folder p : Path} {name : String} {id n : Nat}

lemma within (h : Opened s s' folder name p id) : Within s s' := by
  intro q e hq
  by_cases hqp : q = p
  · subst hqp
    obtain hold | ⟨hnone, -⟩ := h.new
    · exact h.find.trans (hold.symm.trans hq)
    · rw [hnone] at hq
      cases hq
  · exact (h.find_of_ne q hqp).trans hq

lemma sound (h : Opened s s' folder name p id) (hs : s.Sound n) : s'.Sound n := by
  -- A path other than the one that was opened cannot stand for its number, which is old or new with it.
  have hother (q : Path) (i : Nat) (hqp : q ≠ p) (hq : s'.find? q = some (.file i)) (hi : n ≤ i) : i ≠ id := by
    rintro rfl
    rw [h.find_of_ne q hqp] at hq
    obtain hold | ⟨-, hnew, -⟩ := h.new
    · exact hqp (hs.inj q p i hi hq hold)
    · exact absurd (hs.lt q i hq) (by omega)
  refine ⟨Nat.le_trans hs.le h.length, fun q i hq => ?_, fun q q' i hi hq hq' => ?_⟩
  · by_cases hqp : q = p
    · subst hqp
      obtain rfl : id = i := by simpa [h.find] using hq
      exact h.lt
    · rw [h.find_of_ne q hqp] at hq
      exact Nat.lt_of_lt_of_le (hs.lt q i hq) h.length
  · by_cases hqp : q = p <;> by_cases hqp' : q' = p
    · rw [hqp, hqp']
    · subst hqp
      obtain rfl : id = i := by simpa [h.find] using hq
      exact absurd rfl (hother q' id hqp' hq' hi)
    · subst hqp'
      obtain rfl : id = i := by simpa [h.find] using hq'
      exact absurd rfl (hother q id hqp hq hi)
    · rw [h.find_of_ne q hqp] at hq
      rw [h.find_of_ne q' hqp'] at hq'
      exact hs.inj q q' i hi hq hq'

/-- A file that is there under another path is not the one that was opened. -/
lemma ne (h : Opened s s' folder name p id) (hs : s.Sound n) {q : Path} {i : Nat} (hi : n ≤ i)
    (hq : s.find? q = some (.file i)) (hqp : q ≠ p) : id ≠ i := by
  rintro rfl
  obtain hold | ⟨-, hnew, -⟩ := h.new
  · exact hqp (hs.inj q p id hi hq hold)
  · exact absurd (hs.lt q id hq) (by omega)

end Opened

/-! ## Creating folders -/

/-- Nothing but folders has been added. -/
structure Furnished (s s' : FileStore) : Prop where
  within : Within s s'
  file : ∀ p id, s'.find? p = some (.file id) → s.find? p = some (.file id)
  contents : s'.contents = s.contents

lemma furnished_add (s : FileStore) (p : Path) : Furnished s (s.add p .folder) := by
  refine ⟨.add s p .folder, fun q id hq => ?_, rfl⟩
  rw [find?_add] at hq
  cases hs : s.find? q with
  | some e => simpa [hs] using hq
  | none =>
    rw [hs, Option.none_or] at hq
    split at hq <;> simp at hq

lemma createFoldersFrom_furnished {s s' : FileStore} {base : Path} {names : List String}
    (h : s.createFoldersFrom base names = .ok s') : Furnished s s' := by
  induction names generalizing s base with
  | nil =>
    obtain rfl := Except.ok.inj h
    exact ⟨.refl s, fun _ _ h => h, rfl⟩
  | cons name rest ih =>
    rw [createFoldersFrom] at h
    split at h
    · exact ih h
    · cases h
    · have hrest := ih h
      have hadd := s.furnished_add (base ++ [name])
      exact ⟨hadd.within.trans hrest.within, fun p id hp => hadd.file p id (hrest.file p id hp),
        hrest.contents⟩

lemma Furnished.sound {s s' : FileStore} {n : Nat} (h : Furnished s s') (hs : s.Sound n) : s'.Sound n := by
  refine ⟨h.contents ▸ hs.le, fun p id hp => h.contents ▸ hs.lt p id (h.file p id hp),
    fun p q id hid hp hq => hs.inj p q id hid (h.file p id hp) (h.file q id hq)⟩

/-! ## Replacing -/

/-- What replacing the contents of a file leaves as it is. -/
structure Replaced (s s' : FileStore) (folder : Path) (name : String) (p : Path) (id : Nat) : Prop where
  place : s.locate folder name = .ok p
  find_of_ne : ∀ q, q ≠ p → s'.find? q = s.find? q
  bytes : ∀ other, other ≠ id → other < s.contents.length → s'.bytes other = s.bytes other

lemma replaced {s s' : FileStore} {folder : Path} {name : String} {data : List UInt8} {n : Nat} (hs : s.Sound n)
    (h : s.write folder name data = .ok s') :
    ∃ p id, Replaced s s' folder name p id ∧ s'.Sound n ∧
      ∀ q i, n ≤ i → s.find? q = some (.file i) → q ≠ p → id ≠ i := by
  unfold write at h
  cases hopen : s.openAppend folder name with
  | error e =>
    rw [hopen] at h
    cases h
  | ok found =>
    obtain ⟨id, s₁⟩ := found
    rw [hopen] at h
    obtain rfl := Except.ok.inj h
    obtain ⟨p, ho⟩ := opened hs hopen
    have hfind (q : Path) :
        FileStore.find? { s₁ with contents := s₁.contents.set id data } q = s₁.find? q := rfl
    refine ⟨p, id, ⟨ho.place, fun q hq => (hfind q).trans (ho.find_of_ne q hq), ?_⟩,
      (ho.sound hs).of_find? hfind (List.length_set ..), fun q i hi hq hqp => ho.ne hs hi hq hqp⟩
    intro other hne hlt
    have hset : FileStore.bytes { s₁ with contents := s₁.contents.set id data } other = s₁.bytes other := by
      simp [FileStore.bytes, Ne.symm hne]
    rw [hset, ho.bytes other hlt]

/-! ## Where names lead -/

lemma walk_within {s s' : FileStore} (h : Within s s') {base : Path} {steps : List String}
    {r : Path × String} (hw : s.walk base steps = .ok r) : s'.walk base steps = .ok r := by
  induction steps generalizing base with
  | nil => exact hw
  | cons name rest ih =>
    cases rest with
    | nil => exact hw
    | cons next more =>
      rw [walk] at hw ⊢
      · split
        · next hup =>
          rw [if_pos hup] at hw
          exact ih hw
        · next hup =>
          rw [if_neg hup] at hw
          split at hw
          · cases hw
          · next hlong =>
            rw [if_neg hlong]
            split at hw
            · next hfolder =>
              rw [h _ _ hfolder]
              exact ih hw
            · cases hw
            · cases hw
      · exact List.cons_ne_nil _ _
      · exact List.cons_ne_nil _ _

/-- A name that leads to a path leads there as long as nothing is taken away. -/
lemma locate_within {s s' : FileStore} (h : Within s s') {folder p : Path} {name : String}
    (hl : s.locate folder name = .ok p) : s'.locate folder name = .ok p := by
  unfold locate at hl ⊢
  dsimp only at hl ⊢
  split at hl
  · cases hl
  · next hnul =>
    rw [if_neg hnul]
    split at hl
    · cases hl
    · next hlong =>
      rw [if_neg hlong]
      generalize (if name.toList.head? = some '/' then [] else folder) = base at hl ⊢
      split at hl
      · cases hl
      · next hbase =>
        have hold : s.isFolder base = true := by simpa using hbase
        have hfolder : s'.isFolder base = true := decide_eq_true (h _ _ (of_decide_eq_true hold))
        rw [hfolder, Bool.not_true, if_neg Bool.false_ne_true]
        split at hl
        · cases hl
        · next hslash =>
          rw [if_neg hslash]
          cases hw : s.walk base (steps name.toList) with
          | error e =>
            rw [hw] at hl
            cases hl
          | ok r =>
            rw [hw] at hl
            rw [walk_within h hw]
            exact hl

lemma walk_last {s : FileStore} {base : Path} {steps : List String} {r : Path × String}
    (hw : s.walk base steps = .ok r) : steps.getLast? = some r.2 := by
  induction steps generalizing base with
  | nil => cases hw
  | cons name rest ih =>
    cases rest with
    | nil =>
      rw [walk] at hw
      split at hw
      · cases hw
      · split at hw
        · cases hw
        · obtain rfl := Except.ok.inj hw
          rfl
    | cons next more =>
      rw [List.getLast?_cons_cons]
      rw [walk] at hw
      · split at hw
        · exact ih hw
        · split at hw
          · cases hw
          · split at hw
            · exact ih hw
            · cases hw
            · cases hw
      · exact List.cons_ne_nil _ _

/-- A path ends in the last step of the name that leads to it. -/
lemma locate_last {s : FileStore} {folder p : Path} {name : String} (h : s.locate folder name = .ok p) :
    p.getLast? = (steps name.toList).getLast? := by
  unfold locate at h
  dsimp only at h
  generalize (if name.toList.head? = some '/' then [] else folder) = base at h
  split at h
  · cases h
  · split at h
    · cases h
    · split at h
      · cases h
      · split at h
        · cases h
        · cases hw : s.walk base (steps name.toList) with
          | error e =>
            rw [hw] at h
            cases h
          | ok r =>
            rw [hw] at h
            obtain rfl := Except.ok.inj h
            rw [walk_last hw, List.getLast?_append_of_ne_nil _ (List.cons_ne_nil _ _)]
            rfl

end FileStore

/-! ## Extensions -/

lemma splitAll_append {separator : Char} (cs : List Char) {tail : List Char} (h : separator ∉ tail) :
    ∃ front before, Text.splitAll separator (cs ++ tail) = front ++ [before ++ tail] := by
  induction cs with
  | nil => exact ⟨[], [], Text.splitAll_of_notMem h⟩
  | cons c rest ih =>
    obtain ⟨front, before, hrest⟩ := ih
    rw [List.cons_append, Text.splitAll, hrest]
    cases front with
    | nil =>
      by_cases hc : c = separator
      · exact ⟨[[]], before, by simp [hc]⟩
      · exact ⟨[], c :: before, by simp [hc]⟩
    | cons piece pieces =>
      by_cases hc : c = separator
      · exact ⟨[] :: piece :: pieces, before, by simp [hc]⟩
      · exact ⟨(c :: piece) :: pieces, before, by simp [hc]⟩

/-- The last step of a path keeps what stands behind its last point. -/
lemma FileStore.steps_last (stem : List Char) {extension : List Char} (hslash : '/' ∉ extension)
    (hne : extension ≠ []) :
    ∃ before, (FileStore.steps (stem ++ '.' :: extension)).getLast? =
      some (String.ofList (before ++ '.' :: extension)) := by
  have htail : '/' ∉ '.' :: extension := by simp [hslash]
  obtain ⟨front, before, hsplit⟩ := splitAll_append stem htail
  refine ⟨before, ?_⟩
  have hkept : (!(before ++ '.' :: extension).isEmpty && before ++ '.' :: extension != ['.']) = true := by
    cases before with
    | nil => simp [hne]
    | cons c rest => simp
  have hlast : [before ++ '.' :: extension].filter (fun step => !step.isEmpty && step != ['.']) =
      [before ++ '.' :: extension] := by
    rw [List.filter_cons, if_pos hkept, List.filter_nil]
  rw [FileStore.steps, hsplit, List.filter_append, hlast]
  simp

lemma splitFirst_eq_some {separator : Char} {cs before after : List Char}
    (h : Text.splitFirst separator cs = some (before, after)) :
    cs = before ++ separator :: after ∧ separator ∉ before := by
  induction cs generalizing before with
  | nil => cases h
  | cons c rest ih =>
    rw [Text.splitFirst] at h
    split at h
    · next hc =>
      obtain ⟨rfl, rfl⟩ := by simpa using h
      simp [hc]
    · next hc =>
      obtain ⟨⟨b, a⟩, hrest, hba⟩ := Option.map_eq_some_iff.mp h
      obtain ⟨rfl, rfl⟩ := by simpa using hba
      obtain ⟨rfl, hnot⟩ := ih hrest
      exact ⟨rfl, by simp [hnot, Ne.symm hc]⟩

/-- A file name ends in an extension of three bytes. -/
lemma fileName_eq (name : String) {extension : String} (hsize : extension.utf8ByteSize = 3)
    (hslash : '/' ∉ extension.toList) (hpoint : '.' ∉ extension.toList) :
    ∃ stem e, (fileName name extension).toList = stem ++ '.' :: e ∧ '/' ∉ e ∧ '.' ∉ e ∧
      (String.ofList e).utf8ByteSize = 3 := by
  unfold fileName
  split
  · next hext =>
    unfold hasExtension at hext
    split at hext
    · next stem e hlast =>
      obtain ⟨⟨after, before⟩, hfirst, hsides⟩ := Option.map_eq_some_iff.mp hlast
      obtain ⟨rfl, rfl⟩ := by simpa using hsides
      obtain ⟨hname, hnot⟩ := splitFirst_eq_some hfirst
      simp only [Bool.and_eq_true, beq_iff_eq, List.all_eq_true] at hext
      obtain ⟨⟨-, hbytes⟩, hall⟩ := hext
      refine ⟨before.reverse, after.reverse, ?_, fun hin => ?_, by simpa using hnot, hbytes⟩
      · rw [← List.reverse_reverse name.toList, hname]
        simp
      · have hslash' : Text.isAlphanumeric '/' = false := Text.isAlphanumeric_of_lt (by decide)
        simpa [hslash'] using hall _ hin
    · cases hext
  · exact ⟨name.toList, extension.toList, by simp, hslash, hpoint, by simpa using hsize⟩

lemma eq_of_append_point {before before' after after' : List Char} (h : '.' ∉ after) (h' : '.' ∉ after')
    (heq : before ++ '.' :: after = before' ++ '.' :: after') : after = after' := by
  have hreverse : after.reverse ++ '.' :: before.reverse = after'.reverse ++ '.' :: before'.reverse := by
    simpa using congrArg List.reverse heq
  have hsplit := Text.splitFirst_append_cons before.reverse (show '.' ∉ after.reverse by simpa using h)
  rw [hreverse, Text.splitFirst_append_cons _ (by simpa using h')] at hsplit
  have hsides := Option.some.inj hsplit
  exact (List.reverse_injective (congrArg Prod.fst hsides)).symm

/-- A file name with an extension of three bytes leads elsewhere than one with a longer extension. -/
lemma FileStore.locate_fileName_ne {s s' : FileStore} {folder folder' p q : Path} {name extension file : String}
    (hsize : extension.utf8ByteSize = 3) (hslash : '/' ∉ extension.toList) (hpoint : '.' ∉ extension.toList)
    (hp : s.locate folder (fileName name extension) = .ok p) {stem longer : List Char}
    (hfile : file.toList = stem ++ '.' :: longer) (hlslash : '/' ∉ longer) (hlpoint : '.' ∉ longer)
    (hlonger : 3 < (String.ofList longer).utf8ByteSize) (hq : s'.locate folder' file = .ok q) : p ≠ q := by
  rintro rfl
  obtain ⟨stem', e, hname, heslash, hepoint, hesize⟩ := fileName_eq name hsize hslash hpoint
  have hne {cs : List Char} (h : 3 ≤ (String.ofList cs).utf8ByteSize) : cs ≠ [] := by
    rintro rfl
    exact absurd h (by decide)
  obtain ⟨before, hlast⟩ := FileStore.steps_last stem' heslash (hne (Nat.le_of_eq hesize.symm))
  obtain ⟨before', hlast'⟩ := FileStore.steps_last stem hlslash (hne (Nat.le_of_lt hlonger))
  have hpath := (locate_last hp).symm.trans (locate_last hq)
  rw [hname, hfile, hlast, hlast'] at hpath
  have htext : before ++ '.' :: e = before' ++ '.' :: longer := String.ofList_injective (Option.some.inj hpath)
  rw [eq_of_append_point hepoint hlpoint htext] at hesize
  omega

end FieldStudy
