import Mathlib.Data.List.Basic
import Mathlib.Tactic.Common
import FieldStudy.Proofs.Run.Periods
import FieldStudy.Proofs.Run.Turns
import FieldStudy.Proofs.Scenario.Metadata
import FieldStudy.Proofs.Storage.Numbers

/-!
# The file of the metadata

A run stores its metadata when it starts, and from then on they have a file that they can be stored in again
(`Documented`).  Nothing that a run does takes it away: not even an action that cannot open its record, and not a record
that bears the name of that file.
-/

namespace FieldStudy

/-- The metadata have their file in the folder of the run. -/
structure Documented (s : Setup) (files : FileStore) : Prop where
  numbered : files.Numbered
  place : files.locate s.folder Metadata.file = .ok (s.folder ++ [Metadata.file])
  file : ∃ id, files.find? (s.folder ++ [Metadata.file]) = some (.file id)

namespace Desk

variable {s : Setup} {x y : Desk × Ledger}

lemma numbered_deliver_all {d : Desk} (h : d.files.Numbered) (x : PhoneSample) (names : List String) :
    (names.foldl (Desk.deliver x) d).files.Numbered := by
  induction names generalizing d with
  | nil => exact h
  | cons name rest ih =>
    refine ih ?_
    rw [deliver]
    split
    · exact h
    · exact RecordWriter.numbered_write _ _ _ _ h

/-- No booking makes a name for a number without bytes. -/
lemma Booked.numbered (hbooked : Booked s x y) (h : x.1.files.Numbered) : y.1.files.Numbered := by
  cases hbooked with
  | save hfile hwrite => exact h.write hwrite
  | furnish hfolders => exact (FileStore.createFoldersFrom_furnished hfolders).numbered h
  | note hup data => exact FileLogger.numbered_write _ data h
  | create a sensors hup hcreate => exact RecordWriter.numbered_create _ _ h |> fun h => by rwa [hcreate] at h
  | repeated e hopen => exact h
  | @close d l name =>
    cases hw : d.writers.get? name with
    | none => simpa [hw] using h
    | some w =>
      have hclosed : (w.close d.files).2.2.Numbered :=
        h.of_find? (w.sink.close_find? d.files) (w.sink.close_length d.files)
      simpa [hw] using hclosed
  | pause name paused => exact h
  | sample x sensor hframe => exact numbered_deliver_all h x _
  | @fall d l => exact h.of_find? d.released_same.1 d.released_same.2
  | @rise d l hdown => exact h.of_find? d.released_same.1 d.released_same.2

lemma Leads.numbered (hleads : Leads s x y) (h : x.1.files.Numbered) : y.1.files.Numbered := by
  induction hleads with
  | refl => exact h
  | tail _ hbooked ih => exact hbooked.numbered ih

lemma Leads.documented (hleads : Leads s x y) (h : Documented s x.1.files) : Documented s y.1.files := by
  induction hleads with
  | refl => exact h
  | tail _ hbooked ih =>
    obtain ⟨id, hfile⟩ := ih.file
    exact ⟨hbooked.numbered ih.numbered, FileStore.locate_within hbooked.within ih.place, id, hbooked.within _ _ hfile⟩

end Desk

namespace Run

variable {r q : Run} {s : Setup} {i : Nat} {t : Task} {p : Point} {turn : Turn}

/-- An action adds to the files only, even one that cannot open its record. -/
lemma exists_leads_execute (r : Run) (s : Setup) (l : Ledger) (v : Visit) (a : Action) (hup : r.state ≠ .stopped) :
    ∃ l', Desk.Leads s (r.desk, l) ((r.execute s v a).2.desk, l') := by
  by_cases hopens : ∀ b, a = .record .create b → (r.createRecord s b).1 = .ok ()
  · exact ⟨_, r.leads_execute s l v hup hopens⟩
  · obtain ⟨b, hb⟩ := not_forall.mp hopens
    obtain ⟨rfl, hfails⟩ := Classical.not_imp.mp hb
    refine ⟨l, .of_eq ?_ l⟩
    show (r.record s .create b).2.desk = r.desk
    cases hcreate : r.createRecord s b with
    | mk result q =>
      cases result with
      | ok done => exact absurd (congrArg Prod.fst hcreate) hfails
      | error e =>
        have hidle := r.desk_createRecord_idle s (a := b) (.inr (by rw [hcreate]; rfl))
        rw [record, changeRecord, hcreate]
        rw [hcreate] at hidle
        exact hidle

/-- Metadata that have their file are read back from it once they are stored. -/
lemma stored_saveMetadata (h : Documented s r.files) :
    (r.saveMetadata s).2.files.read? (s.folder ++ [Metadata.file]) =
      some (Utf8.encode (r.saveMetadata s).2.metadata.text.toList) := by
  obtain ⟨id, hfile⟩ := h.file
  obtain ⟨files, hwrite, hread⟩ :=
    FileStore.read?_write h.numbered h.place hfile (Utf8.encode r.metadata.text.toList)
  rw [saveMetadata, Metadata.save, hwrite]
  exact hread

lemma Worked.documented (hworked : r.Worked s i t p turn q) (h : Documented s r.files) : Documented s q.files := by
  cases hworked with
  | enters => exact h
  | @takes node a hstatus hnode haction =>
    obtain ⟨l', hleads⟩ := exists_leads_execute { r with point := some p } s [] ⟨t.branch, p.node, node, t.token⟩ a
      (state_of_isLive (live_of_action? haction))
    exact hleads.documented h
  | @goesOn a resumption result hstatus hresult =>
    refine ((r.awake i a).leads_proceed s [] result resumption).documented ?_
    show Documented s (r.awake i a).files
    rw [show (r.awake i a).files = r.files from r.modifies_awake i a .files (by decide)]
    exact h

end Run

end FieldStudy
