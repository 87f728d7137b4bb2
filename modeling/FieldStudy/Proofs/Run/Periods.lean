import Mathlib.Data.List.Basic
import Mathlib.Logic.Relation
import FieldStudy.Proofs.Run.Records
import FieldStudy.Proofs.Storage.Names

/-!
# Periods of records

A record may be created again once it has been closed, and creating it while it is open changes nothing.  So the
ledger that a run really keeps (`Ledger.periods`) has an entry for each period in which a record was open, and several
may bear one name.  It is told from the moves alone, like the ledger of records that are created once.

What a move does is then a sequence of bookings none of which creates a record that is open (`Run.enters_after`),
whether or not the files can be opened.
-/

namespace FieldStudy

namespace Ledger

/-- Whether a record of the name is open. -/
def isOpen (l : Ledger) (name : String) : Bool := l.any fun e => e.name == name && e.isOpen

/-- The periods after a move.  None begins where the record is open already or where its file cannot be opened. -/
def periods (s : Setup) (r : Run) (l : Ledger) (m : Move) : Ledger :=
  match r.taken? s m with
  | some (.record .create a) =>
    if (r.createRecord s a).1.isOk && !l.isOpen a.name then l.take (.record .create a) else l
  | _ => l.after s r m

def allPeriods (s : Setup) : Run → Ledger → List Move → Ledger
  | _, l, [] => l
  | r, l, m :: rest => allPeriods s (r.after s m) (l.periods s r m) rest

lemma name_of_take_create {l : Ledger} {a : RecordArguments} {e : LedgerEntry}
    (h : l.take (.record .create a) = l ++ [e]) : e.name = a.name := by
  rw [take] at h
  split at h
  · simp at h
  · split at h
    · simp at h
    · exact congrArg LedgerEntry.name (List.singleton_inj.mp (List.append_cancel_left h)).symm

/-- Only creating records makes a ledger longer. -/
lemma length_take (l : Ledger) {a : Action} (h : ∀ b, a ≠ .record .create b) : (l.take a).length = l.length := by
  cases a with
  | record op b =>
    cases op with
    | create => exact absurd rfl (h b)
    | close => exact List.length_map _
    | pause => exact List.length_map _
    | unpause => exact List.length_map _
    | annotate => rfl
  | _ => rfl

lemma length_after {s : Setup} {r : Run} {m : Move} (l : Ledger)
    (h : ∀ b, r.taken? s m ≠ some (.record .create b)) : (l.after s r m).length = l.length := by
  have helim : ((r.taken? s m).elim l l.take).length = l.length := by
    cases htaken : r.taken? s m with
    | none => rfl
    | some a => exact l.length_take fun b hb => h b (htaken.trans (congrArg some hb))
  cases m with
  | start =>
    rw [after]
    split
    · exact List.length_map _
    · rfl
  | sample role sensor timestamp values => exact List.length_map _
  | _ => exact helim

end Ledger

namespace Desk

variable {s : Setup} {x y z : Desk × Ledger}

/-- A booking that does not create a record that is open. -/
structure Entered (s : Setup) (x y : Desk × Ledger) : Prop where
  booked : Booked s x y
  genuine : ∀ e, y.2 = x.2 ++ [e] → x.1.writers.contains e.name = false

/-- Such bookings one after another. -/
def Enters (s : Setup) : Desk × Ledger → Desk × Ledger → Prop := Relation.ReflTransGen (Entered s)

lemma Booked.length_le (h : Booked s x y) : x.2.length ≤ y.2.length := by
  have hnames := h.names.length_le
  rwa [Ledger.names, Ledger.names, List.length_map, List.length_map] at hnames

lemma Leads.length_le (h : Leads s x y) : x.2.length ≤ y.2.length := by
  induction h with
  | refl => exact Nat.le_refl _
  | tail _ hbooked ih => exact Nat.le_trans ih hbooked.length_le

namespace Enters

lemma refl (x : Desk × Ledger) : Enters s x x := Relation.ReflTransGen.refl

lemma of_eq {d d' : Desk} (h : d' = d) (l : Ledger) : Enters s (d, l) (d', l) := h ▸ refl _

lemma trans (h : Enters s x y) (h' : Enters s y z) : Enters s x z := Relation.ReflTransGen.trans h h'

/-- Where the ledger has not become longer, no record has been created. -/
lemma of_leads (h : Leads s x y) (hlength : y.2.length = x.2.length) : Enters s x y := by
  induction h with
  | refl => exact refl _
  | tail hleads hbooked ih =>
    have hbefore := Leads.length_le hleads
    have hlast := hbooked.length_le
    refine (ih (by omega)).trans (.single ⟨hbooked, fun e he => ?_⟩)
    rw [he, List.length_append, List.length_singleton] at hlength
    omega

lemma within (h : Enters s x y) : x.1.files.Within y.1.files := by
  induction h with
  | refl => exact .refl _
  | tail _ hentered ih => exact ih.trans hentered.booked.within

end Enters

end Desk

/-! ## Files that cannot be opened -/

namespace RecordWriter

/-- A record that cannot be created leaves the files as they are. -/
lemma create_failure {l : FileLogger} {files files' : FileStore} {w : RecordWriter FileLogger} {e : RecordingError}
    (hpaused : l.paused = false) (h : create l Run.recordDescriptor files = (.error e, w, files')) :
    w.sink = l ∧ files' = files := by
  have hheader : Run.recordDescriptor.toBytes.isEmpty = false := by decide +kernel
  rw [create, show LayoutTable.ofDescriptor Run.recordDescriptor = .ok Phone.layouts from Phone.layouts_descriptor] at h
  dsimp only at h
  rw [put, hheader, if_neg Bool.false_ne_true] at h
  cases hopen : l.openFile files with
  | error e' =>
    have hwrite : RecordSink.write l Run.recordDescriptor.toBytes files = (.error e', l, files) :=
      FileLogger.write_of_failure hopen hpaused _
    rw [hwrite] at h
    obtain ⟨-, hrest⟩ := Prod.mk.inj h
    obtain ⟨rfl, rfl⟩ := Prod.mk.inj hrest
    exact ⟨rfl, rfl⟩
  | ok found =>
    -- Once the file is open, nothing fails any more.
    obtain ⟨id, files₁⟩ := found
    have hfirst := FileLogger.outline_write_open (l := { l with handle := some id }) rfl
      Run.recordDescriptor.toBytes files₁
    rw [← FileLogger.write_of_openFile hopen hpaused] at hfirst
    cases hwrite : l.write Run.recordDescriptor.toBytes files with
    | mk result rest =>
      obtain ⟨l₂, files₂⟩ := rest
      rw [hwrite] at hfirst
      obtain ⟨rfl, hrest⟩ := Prod.mk.inj hfirst
      have hhandle₂ : l₂.handle = some id := congrArg FileLogger.handle (Prod.mk.inj hrest).1
      have hsecond := congrArg Prod.fst (FileLogger.outline_write_open hhandle₂ headerEnd files₂)
      have hput : (put l₂ headerEnd files₂).1 = .ok () := hsecond
      rw [show RecordSink.write l Run.recordDescriptor.toBytes files = (.ok (), l₂, files₂) from hwrite] at h
      have hlast : (adopt ⟨l₂, Run.recordDescriptor, Phone.layouts, false⟩ (put l₂ headerEnd files₂)).1 = .error e :=
        congrArg Prod.fst h
      rw [adopt, hput] at hlast
      cases hlast

end RecordWriter

namespace Desk

variable {s : Setup} {d : Desk} {a : RecordArguments}

lemma openRecord_idle {sensors : List String}
    (h : d.writers.contains a.name = true ∨ (d.openRecord s a sensors).1.isOk = false) :
    (d.openRecord s a sensors).2 = d := by
  rw [openRecord] at h ⊢
  by_cases hopen : d.writers.contains a.name = true
  · rw [if_pos hopen]
  · rw [if_neg hopen] at h ⊢
    cases hcreate : RecordWriter.create
        (FileLogger.new s.folder a.name Run.recordExtension s.config.loggerBufferCount) Run.recordDescriptor d.files with
    | mk result rest =>
      obtain ⟨w, files⟩ := rest
      rw [hcreate] at h
      cases result with
      | ok _ => exact absurd (h.resolve_left hopen) (by simp [Except.isOk, Except.toBool])
      | error e =>
        obtain ⟨hsink, rfl⟩ := RecordWriter.create_failure rfl hcreate
        have hclose : (w.sink.close d.files).2.2 = d.files := FileLogger.close_closed (congrArg FileLogger.handle hsink)
        exact congrArg (fun files => { d with files }) hclose

lemma create_idle (h : d.writers.contains a.name = true ∨ (d.create s a).1.isOk = false) : (d.create s a).2 = d := by
  rw [create] at h ⊢
  cases hsensors : a.sensors.getD [] with
  | nil => rfl
  | cons first others =>
    rw [hsensors] at h
    dsimp only at h ⊢
    split
    · rfl
    · next hmic =>
      rw [if_neg hmic] at h
      exact openRecord_idle h

end Desk

namespace Run

variable (r : Run) (s : Setup) (l : Ledger)

/-- A record that is open is left as it is, and so is everything where a file cannot be opened. -/
lemma desk_createRecord_idle {a : RecordArguments}
    (h : r.writers.contains a.name = true ∨ (r.createRecord s a).1.isOk = false) :
    (r.createRecord s a).2.desk = r.desk := by
  obtain ⟨hresult, hdesk⟩ := r.createRecord_desk s a
  rw [hresult] at h
  exact hdesk.trans (Desk.create_idle h)

/-- The period of a record that is created. -/
lemma enters_createRecord {a : RecordArguments} (hup : r.state ≠ .stopped)
    (hopens : (r.createRecord s a).1 = .ok ()) (hclosed : r.writers.contains a.name = false) :
    Desk.Enters s (r.desk, l) ((r.createRecord s a).2.desk, l.take (.record .create a)) := by
  obtain hsame | hbooked := r.booked_createRecord s l hup hopens
  · exact hsame ▸ .refl _
  · exact Relation.ReflTransGen.single ⟨hbooked, fun e he => (Ledger.name_of_take_create he).symm ▸ hclosed⟩

lemma desk_createRecord_point (a : RecordArguments) (p : Option Point) :
    (({ r with point := p } : Run).createRecord s a).2.desk = (r.createRecord s a).2.desk :=
  (createRecord_desk { r with point := p } s a).2.trans (r.createRecord_desk s a).2.symm

/-- What a step does once it has created its record. -/
lemma leads_created {m : Move} {a : RecordArguments} (h : r.taken? s m = some (.record .create a)) :
    Desk.Leads s ((r.createRecord s a).2.desk, l) ((r.after s m).desk, l) := by
  obtain ⟨i, rfl⟩ := step_of_taken? h
  obtain ⟨t, p, ht, hstatus, haction⟩ := taken?_step_iff.mp h
  obtain ⟨hlive, node, hnode, hok, hends⟩ := action?_eq_some_iff.mp haction
  have hpoint := r.desk_createRecord_point s a (some p)
  have hrecord : Desk.Leads s ((r.createRecord s a).2.desk, l)
      ((({ r with point := some p } : Run).record s .create a).2.desk, l) := by
    rw [← hpoint, record, changeRecord]
    generalize ({ r with point := some p } : Run).createRecord s a = x
    obtain ⟨result, q⟩ := x
    cases result with
    | error e => exact .refl _
    | ok _ => exact leads_saved q s l (q.modifies_updateMetadata _) (by decide) 0
  show Desk.Leads s _ (((r.step? s i).getD r).desk, l)
  rw [step?_entering s ht hstatus, Option.getD_some, enter,
    show ({ r with point := some p } : Run).isLive t.token = true from hlive]
  simp only [Bool.not_true, Bool.false_eq_true, if_false, hnode, hok, hends]
  exact hrecord.trans (leads_follow _ s l i t p node _)

/-! ## All moves -/

/-- A move of a run that has the files to itself. -/
def Unshared (r : Run) (m : Move) : Prop := ∀ shared, m = .others shared → shared.files = r.files

def AllUnshared (s : Setup) : Run → List Move → Prop
  | _, [] => True
  | r, m :: rest => r.Unshared m ∧ AllUnshared s (r.after s m) rest

variable {r s}

/-- A step that is to create a record which is open, or whose file cannot be opened, begins no period. -/
lemma enters_idle {m : Move} {a : RecordArguments} (ha : r.taken? s m = some (.record .create a))
    (hidle : r.writers.contains a.name = true ∨ (r.createRecord s a).1.isOk = false) :
    Desk.Enters s (r.desk, l) ((r.after s m).desk, l) :=
  (Desk.Enters.of_eq (r.desk_createRecord_idle s hidle) l).trans (.of_leads (r.leads_created s l ha) rfl)

lemma enters_new {m : Move} {a : RecordArguments} (ha : r.taken? s m = some (.record .create a))
    (hok : (r.createRecord s a).1.isOk = true) (hclosed : r.writers.contains a.name = false) :
    Desk.Enters s (r.desk, l) ((r.after s m).desk, l.take (.record .create a)) := by
  obtain ⟨i, rfl⟩ := step_of_taken? ha
  obtain ⟨t, p, -, -, haction⟩ := taken?_step_iff.mp ha
  have hopens : (r.createRecord s a).1 = .ok () := by
    cases hresult : (r.createRecord s a).1 with
    | ok _ => rfl
    | error e => simp [hresult, Except.isOk, Except.toBool] at hok
  have hcreated := r.enters_createRecord s l (state_of_isLive (live_of_action? haction)) hopens hclosed
  exact hcreated.trans (.of_leads (r.leads_created s _ ha) rfl)

lemma enters_other {m : Move} (h : r.Unshared m) (hnone : ∀ a, r.taken? s m ≠ some (.record .create a)) :
    Desk.Enters s (r.desk, l) ((r.after s m).desk, l.after s r m) :=
  .of_leads (r.leads_after s l ⟨h, fun a ha => absurd ha (hnone a)⟩) (l.length_after hnone)

/-- What a move does to the desk, whatever it does to the periods. -/
lemma exists_enters {m : Move} (h : r.Unshared m) : ∃ l', Desk.Enters s (r.desk, l) ((r.after s m).desk, l') := by
  by_cases hcreate : ∃ a, r.taken? s m = some (.record .create a)
  · obtain ⟨a, ha⟩ := hcreate
    by_cases hidle : r.writers.contains a.name = true ∨ (r.createRecord s a).1.isOk = false
    · exact ⟨_, enters_idle l ha hidle⟩
    · obtain ⟨hclosed, hok⟩ := not_or.mp hidle
      exact ⟨_, enters_new l ha (by simpa using hok) (by simpa using hclosed)⟩
  · exact ⟨_, enters_other l h fun a ha => hcreate ⟨a, ha⟩⟩

/-- No move of a run takes away a file or a folder. -/
lemma within_after (r : Run) (s : Setup) {m : Move} (hown : ∀ shared, m ≠ .others shared) :
    r.files.Within (r.after s m).files := by
  obtain ⟨l, henters⟩ := exists_enters (s := s) (r := r) [] fun shared hm => absurd hm (hown shared)
  exact henters.within

/-- What a move does to the desk and to the periods of records. -/
lemma enters_after {m : Move} (h : r.Unshared m)
    (hopen : r.state ≠ .stopped → ∀ name, r.writers.contains name = l.isOpen name) :
    Desk.Enters s (r.desk, l) ((r.after s m).desk, l.periods s r m) := by
  rw [Ledger.periods]
  split
  · next a ha =>
    obtain ⟨i, rfl⟩ := step_of_taken? ha
    obtain ⟨t, p, -, -, haction⟩ := taken?_step_iff.mp ha
    rw [← hopen (state_of_isLive (live_of_action? haction)) a.name]
    split
    · next hnew =>
      obtain ⟨hok, hclosed⟩ := Bool.and_eq_true_iff.mp hnew
      exact enters_new l ha hok (by simpa using hclosed)
    · next hold =>
      refine enters_idle l ha ?_
      cases hok : (r.createRecord s a).1.isOk with
      | false => exact .inr rfl
      | true => exact .inl (by simpa [hok] using hold)
  · next hnone => exact enters_other l h hnone

end Run

end FieldStudy
