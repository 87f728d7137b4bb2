import Mathlib.Data.List.Nodup
import Mathlib.Tactic.Common
import FieldStudy.Proofs.Run.OpenRoutes

/-!
# Operations on records

Closing, pausing and creating records, taking samples, and the end of a run, each with what it does to the ledger: the
desk still agrees with it.
-/

namespace FieldStudy

namespace Desk

variable {s : Setup} {earlier files files' : FileStore} {d d' : Desk} {l : Ledger} {e : LedgerEntry}

/-! ## Closing and pausing records -/

lemma Sound.routes (h : d.Sound s earlier l) : RoutesAgree d.isUp d.routes l := ⟨h.nodup, h.routed⟩

/-- A record that is closed has no writer and no routes any more, and its file holds all of it. -/
lemma Sound.shut (h : d.Sound s earlier l) (name : String) (hfind : ∀ p, files'.find? p = d.files.find? p)
    (hfiles : files'.Sound earlier.contents.length)
    (hself : ∀ e ∈ l, e.name = name → ∀ p id, Placed s earlier d.files e.name p id → files'.bytes id = e.image)
    (hother : ∀ e ∈ l, e.name ≠ name → ∀ p id, Placed s earlier d.files e.name p id →
      files'.bytes id = d.files.bytes id) :
    Sound s earlier { d with
      routes := Run.removeRoutes d.routes name, writers := d.writers.erase name, files := files' }
      (l.mark name fun e => { e with isOpen := false }) := by
  have hwithin : d.files.Within files' := .of_find? hfind
  have hnames : (l.mark name fun e => { e with isOpen := false }).names = l.names := names_mark l name fun _ => rfl
  have hroutes := h.routes.close name
  refine ⟨hfiles, h.sorted.erase name, fun hd => ?_, fun n w hw => ?_, hroutes.nodup, hroutes.mem,
    fun e' he' => ?_, fun lg hlg => (h.log lg hlg).within hwithin, fun p id hp => ?_⟩
  · obtain ⟨hwriters, hroutes, hlog⟩ := h.down hd
    exact ⟨by rw [hwriters]; rfl, by rw [hroutes]; rfl, hlog⟩
  · rw [Dict.get?_erase] at hw
    split at hw
    · cases hw
    · next hne =>
      obtain ⟨e, he, rfl, hopen⟩ := h.owner n w hw
      exact ⟨e, mem_mark_of_ne he (Ne.symm hne), rfl, hopen⟩
  · obtain ⟨e, he, ⟨hne, rfl⟩ | ⟨heq, rfl⟩⟩ := mem_mark he'
    · refine (h.entry e' he).transfer rfl ?_ hwithin (hother e' he hne)
      rw [Dict.get?_erase, if_neg (Ne.symm hne)]
    · obtain ⟨p, id, hplaced, -, -⟩ := h.entry e he
      exact ⟨p, id, hplaced.within hwithin, fun hholds => by simp [holds] at hholds,
        fun _ => hself e he heq p id hplaced⟩
  · rw [hfind p] at hp
    exact (h.known p id hp).within hwithin (hnames ▸ List.Subset.refl _)

/-- Closing one record writes out all of it and touches no other. -/
lemma Sound.close (h : d.Sound s earlier l)
    (hapart : Run.RecordsApart s earlier d.files l.names) (name : String) :
    Sound s earlier { d with
      routes := Run.removeRoutes d.routes name, writers := d.writers.erase name
      files := (d.writers.get? name).elim d.files fun w => (w.close d.files).2.2 }
      (l.mark name fun e => { e with isOpen := false }) := by
  cases hw : d.writers.get? name with
  | none =>
    refine h.shut name (fun _ => rfl) h.files (fun e he hname p id hplaced => ?_) (fun _ _ _ _ _ _ => rfl)
    obtain ⟨p', id', hplaced', -, hshut⟩ := h.entry e he
    obtain rfl : p' = p := Except.ok.inj (hplaced'.place.symm.trans hplaced.place)
    obtain rfl : id' = id := by simpa using hplaced'.find.symm.trans hplaced.find
    exact hshut (h.not_holds he (hname ▸ hw))
  | some w =>
    obtain ⟨e, he, rfl, hholds, p, id, hplaced, hserves⟩ := h.writer hw
    obtain ⟨data, happended, hbytes⟩ := hserves.close (h.files.lt p id hplaced.find)
    refine h.shut e.name happended.find (happended.sound h.files) (fun e' he' hname p' id' hplaced' => ?_)
      (fun e' he' hne p' id' hplaced' => ?_)
    · obtain rfl := entry_eq hapart.once he' he hname
      obtain rfl : p' = p := Except.ok.inj (hplaced'.place.symm.trans hplaced.place)
      obtain rfl : id' = id := by simpa using hplaced'.find.symm.trans hplaced.find
      exact hbytes
    · exact happended.bytes_of_ne id' (hplaced'.ne hplaced hapart h.files (mem_names he') (mem_names he) hne)

/-- A change of one record that leaves its routes as they are. -/
lemma Sound.revise (h : d.Sound s earlier l) (name : String) {change : LedgerEntry → LedgerEntry}
    (hchange : ∀ e, (change e).name = e.name ∧ (change e).isOpen = e.isOpen ∧ (change e).sensors = e.sensors)
    {writers : Dict (RecordWriter FileLogger)} (hsorted : writers.Sorted)
    (hsome : ∀ n w, writers.get? n = some w → ∃ w', d.writers.get? n = some w')
    (hnil : d.writers = [] → writers = []) (hwriters : ∀ n, n ≠ name → writers.get? n = d.writers.get? n)
    (hfind : ∀ p, files'.find? p = d.files.find? p) (hfiles : files'.Sound earlier.contents.length)
    (hself : ∀ e ∈ l, e.name = name → Keeps s earlier { d with writers, files := files' } (change e))
    (hother : ∀ e ∈ l, e.name ≠ name → ∀ p id, Placed s earlier d.files e.name p id →
      files'.bytes id = d.files.bytes id) :
    Sound s earlier { d with writers, files := files' } (l.mark name change) := by
  have hwithin : d.files.Within files' := .of_find? hfind
  have hnames : (l.mark name change).names = l.names := names_mark l name fun e => (hchange e).1
  have hmark (e : LedgerEntry) : let e' := if e.name = name then change e else e
      e'.name = e.name ∧ e'.isOpen = e.isOpen ∧ e'.sensors = e.sensors := by
    dsimp only
    split
    · exact hchange e
    · exact ⟨rfl, rfl, rfl⟩
  have hroutes := h.routes.revise hmark
  refine ⟨hfiles, hsorted, fun hd => ?_, fun n w hw => ?_, hroutes.nodup, hroutes.mem, fun e' he' => ?_,
    fun lg hlg => (h.log lg hlg).within hwithin, fun p id hp => ?_⟩
  · obtain ⟨hnone, hroutes, hlog⟩ := h.down hd
    exact ⟨hnil hnone, hroutes, hlog⟩
  · obtain ⟨w', hw'⟩ := hsome n w hw
    obtain ⟨e, he, hname, hopen⟩ := h.owner n w' hw'
    exact ⟨_, List.mem_map_of_mem he, (hmark e).1.trans hname, (hmark e).2.1.trans hopen⟩
  · obtain ⟨e, he, ⟨hne, rfl⟩ | ⟨heq, rfl⟩⟩ := mem_mark he'
    · exact (h.entry e' he).transfer rfl (hwriters e'.name hne) hwithin (hother e' he hne)
    · exact hself e he heq
  · rw [hfind p] at hp
    exact (h.known p id hp).within hwithin (hnames ▸ List.Subset.refl _)

/-- A record whose writer is paused or goes on again. -/
lemma Sound.pause (h : d.Sound s earlier l) (name : String) (paused : Bool) :
    Sound s earlier { d with writers := d.writers.adjust name (·.setPaused paused) }
      (l.mark name fun e => { e with paused }) := by
  have hget (n : String) : (d.writers.adjust name (·.setPaused paused)).get? n =
      if name = n then (d.writers.get? n).map (·.setPaused paused) else d.writers.get? n :=
    Dict.get?_adjust d.writers name n _
  have hsame (e : LedgerEntry) : ({ e with paused } : LedgerEntry).name = e.name ∧
      ({ e with paused } : LedgerEntry).isOpen = e.isOpen ∧
      ({ e with paused } : LedgerEntry).sensors = e.sensors := ⟨rfl, rfl, rfl⟩
  have hsorted : (d.writers.adjust name (·.setPaused paused)).Sorted := by
    rw [Dict.adjust]
    split
    · exact h.sorted.insert name _
    · exact h.sorted
  refine h.revise name hsame hsorted (fun n w hw => ?_) (fun hnil => by rw [hnil]; rfl)
    (fun n hne => ?_) (fun _ => rfl) h.files (fun e he heq => ?_) (fun _ _ _ _ _ _ => rfl)
  · rw [hget] at hw
    split at hw
    · obtain ⟨w', hw', -⟩ := Option.map_eq_some_iff.mp hw
      exact ⟨w', hw'⟩
    · exact ⟨w, hw⟩
  · rw [hget, if_neg (Ne.symm hne)]
  · subst heq
    obtain ⟨p, id, hplaced, hopen, hclosed⟩ := h.entry e he
    refine ⟨p, id, hplaced, fun hholds => ?_, hclosed⟩
    obtain ⟨w, hw, hserves⟩ := hopen hholds
    refine ⟨w.setPaused paused, ?_, hserves.setPaused paused⟩
    show (Dict.adjust d.writers e.name _).get? e.name = _
    rw [hget, if_pos rfl, hw]
    rfl

/-! ## Samples -/

/-- What a sample that reaches a record does. -/
def deliver (x : PhoneSample) (d : Desk) (name : String) : Desk :=
  match d.writers.get? name with
  | none => d
  | some w =>
    let written := w.write x.frame (.uint x.timestamp) (x.values.map fun v => .float v.toDouble) d.files
    { d with writers := d.writers.insert name written.2.1, files := written.2.2 }

/-- What a sample that reaches a record adds to its entry. -/
def credit (d : Desk) (x : PhoneSample) (e : LedgerEntry) : LedgerEntry :=
  if d.holds e && !e.paused then { e with samples := e.samples ++ [x] } else e

lemma credit_same (d : Desk) (x : PhoneSample) (e : LedgerEntry) :
    (d.credit x e).name = e.name ∧ (d.credit x e).isOpen = e.isOpen ∧ (d.credit x e).sensors = e.sensors := by
  rw [credit]
  split <;> exact ⟨rfl, rfl, rfl⟩

lemma deliver_isUp (x : PhoneSample) (d : Desk) (name : String) : (d.deliver x name).isUp = d.isUp := by
  rw [deliver]
  split <;> rfl

lemma deliver_within (x : PhoneSample) (d : Desk) (name : String) :
    d.files.Within (d.deliver x name).files := by
  rw [deliver]
  split
  · exact .refl _
  · exact RecordWriter.write_within _ _ _ _ _

/-- A sample that reaches a record, which takes it unless it is paused. -/
lemma Sound.deliver (h : d.Sound s earlier l) (hapart : Run.RecordsApart s earlier d.files l.names)
    {x : PhoneSample} {sensor : String} (hframe : SensorType.frameId? sensor = some x.frame) (name : String) :
    Sound s earlier (d.deliver x name) (l.mark name (d.credit x)) := by
  rw [Desk.deliver]
  cases hw : d.writers.get? name with
  | none =>
    have hsame : l.mark name (d.credit x) = l := by
      refine (List.map_congr_left fun e he => ?_).trans (List.map_id l)
      split
      · next hname =>
        have hnot : d.holds e = false := h.not_holds he (hname ▸ hw)
        simp [credit, hnot]
      · rfl
    rw [hsame]
    exact h
  | some w =>
    obtain ⟨e, he, rfl, hholds, p, id, hplaced, hserves⟩ := h.writer hw
    obtain ⟨w', files', data, hwrite, happended, hserves'⟩ :=
      hserves.write (h.files.lt p id hplaced.find) hframe x.timestamp x.values
    dsimp only
    rw [hwrite]
    refine h.revise e.name (d.credit_same x) (h.sorted.insert _ _) (fun n v hv => ?_) (fun hnil => ?_)
      (fun n hne => Dict.get?_insert_of_ne _ _ (Ne.symm hne)) happended.find (happended.sound h.files)
      (fun e' he' hname => ?_) (fun e' he' hne q i hplaced' => ?_)
    · rw [Dict.get?_insert] at hv
      split at hv
      · next heq => exact ⟨w, heq ▸ hw⟩
      · exact ⟨v, hv⟩
    · rw [hnil] at hw
      cases hw
    · obtain rfl := entry_eq hapart.once he' he hname
      refine ⟨p, id, ?_, fun _ => ⟨w', ?_, ?_⟩, fun hnot => ?_⟩
      · rw [(d.credit_same x e').1]
        exact hplaced.within (.of_find? happended.find)
      · rw [(d.credit_same x e').1]
        exact Dict.get?_insert_self _ _ _
      · cases hp : e'.paused with
        | true => simpa [credit, hp] using hserves'
        | false => simpa [credit, hholds, hp, LedgerEntry.image, List.flatMap_append] using hserves'
      · have hholds' : d.holds (d.credit x e') = d.holds e' := by rw [holds, holds, (d.credit_same x e').2.1]
        exact absurd hholds (by simp [← hholds', show d.holds (d.credit x e') = false from hnot])
    · exact happended.bytes_of_ne i (hplaced'.ne hplaced hapart h.files (mem_names he') (mem_names he) hne)

lemma credit_deliver (x : PhoneSample) (d : Desk) (name : String) : (d.deliver x name).credit x = d.credit x := by
  funext e
  rw [credit, credit, holds, holds, deliver_isUp]

lemma deliver_all_within (x : PhoneSample) (d : Desk) (names : List String) :
    d.files.Within (names.foldl (Desk.deliver x) d).files := by
  induction names generalizing d with
  | nil => exact .refl _
  | cons name rest ih => exact (d.deliver_within x name).trans (ih _)

/-- A sample that reaches several records, one after another. -/
lemma Sound.deliver_all (h : d.Sound s earlier l) {x : PhoneSample} {sensor : String}
    (hframe : SensorType.frameId? sensor = some x.frame) (names : List String)
    (hapart : Run.RecordsApart s earlier (names.foldl (Desk.deliver x) d).files l.names) :
    Sound s earlier (names.foldl (Desk.deliver x) d) (names.foldl (fun l name => l.mark name (d.credit x)) l) := by
  induction names generalizing d l with
  | nil => exact h
  | cons name rest ih =>
    have hbefore : Run.RecordsApart s earlier d.files l.names :=
      hapart.before (d.deliver_all_within x (name :: rest)) (List.Sublist.refl _)
    have hnames : (l.mark name (d.credit x)).names = l.names := names_mark l name fun e => (d.credit_same x e).1
    have hrest := ih (h.deliver hbefore hframe name) (hnames ▸ hapart)
    rw [credit_deliver] at hrest
    exact hrest

/-- Marking several names, each of them once. -/
lemma mark_all {names : List String} (hnodup : names.Nodup) {change : LedgerEntry → LedgerEntry}
    (hname : ∀ e, (change e).name = e.name) (l : Ledger) :
    names.foldl (fun l name => l.mark name change) l = l.map fun e => if e.name ∈ names then change e else e := by
  induction names generalizing l with
  | nil => simp
  | cons name rest ih =>
    obtain ⟨hnot, hrest⟩ := List.nodup_cons.mp hnodup
    rw [List.foldl_cons, ih hrest, Ledger.mark, List.map_map]
    refine List.map_congr_left fun e _ => ?_
    by_cases heq : e.name = name
    · simp [heq, hname, hnot]
    · simp [heq]

/-- What a sample of a sensor adds to an entry: it goes to each open record that lists the sensor. -/
def receive (d : Desk) (x : PhoneSample) (sensor : String) (e : LedgerEntry) : LedgerEntry :=
  if d.holds e && !e.paused && e.sensors.contains sensor then { e with samples := e.samples ++ [x] } else e

lemma names_receive (d : Desk) (x : PhoneSample) (sensor : String) (l : Ledger) :
    Ledger.names (l.map (d.receive x sensor)) = l.names := by
  refine names_map l fun e => ?_
  rw [receive]
  split <;> rfl

/-- A sample of a sensor, which takes the route of the sensor. -/
def sample (d : Desk) (x : PhoneSample) (sensor : String) : Desk := (d.route sensor).foldl (deliver x) d

lemma Sound.sample (h : d.Sound s earlier l) {x : PhoneSample} {sensor : String}
    (hframe : SensorType.frameId? sensor = some x.frame)
    (hapart : Run.RecordsApart s earlier (d.sample x sensor).files l.names) :
    Sound s earlier (d.sample x sensor) (l.map (d.receive x sensor)) := by
  have hall := h.deliver_all hframe (d.route sensor) hapart
  rw [mark_all (h.nodup sensor) fun e => (d.credit_same x e).1] at hall
  have hreceive : (l.map fun e => if e.name ∈ d.route sensor then d.credit x e else e) =
      l.map (d.receive x sensor) := by
    refine List.map_congr_left fun e he => ?_
    have hrouted : e.name ∈ d.route sensor ↔ d.holds e = true ∧ sensor ∈ e.sensors := by
      refine (h.routed sensor e.name).trans ⟨?_, fun hlisted => ⟨e, he, rfl, hlisted⟩⟩
      rintro ⟨e', he', hname, hlisted⟩
      exact entry_eq hapart.once he' he hname ▸ hlisted
    by_cases hlisted : sensor ∈ e.sensors <;> by_cases hholds : d.holds e = true <;>
      simp [receive, credit, hrouted, hlisted, hholds]
  rwa [hreceive] at hall

/-! ## Creating records -/

/-- No file is where a new record goes: none was there before the run, and the run has put nothing else there. -/
lemma Sound.unused (h : d.Sound s earlier l) {name : String} {p : Path} (hwithin : d.files.Within files')
    (hapart : Run.RecordsApart s earlier files' (l.names ++ [name]))
    (hplace : files'.locate s.folder (Run.recordFile name) = .ok p) (id : Nat) :
    d.files.find? p ≠ some (.file id) := by
  intro hold
  have hself : name ∈ l.names ++ [name] := by simp
  obtain hearlier | ⟨file, hfile, hp⟩ | ⟨n, hn, hp⟩ := h.known p id hold
  · exact hearlier (hapart.fresh name hself p hplace)
  · simp only [ownFiles, List.mem_cons, List.not_mem_nil, or_false] at hfile
    obtain hfile | hfile | rfl := hfile
    · exact place_ne_document hplace (.inl hfile) hp rfl
    · exact place_ne_document hplace (.inr hfile) hp rfl
    · exact hapart.log name hself p hplace (FileStore.locate_within hwithin hp)
  · have heq : n = name :=
      hapart.apart n (List.mem_append_left _ hn) name hself p (FileStore.locate_within hwithin hp) hplace
    exact (List.nodup_append.mp hapart.once).2.2 n hn name (List.mem_singleton.mpr rfl) heq

/-- A record that is created has a new file with the header for its contents. -/
lemma Sound.create (h : d.Sound s earlier l) {a : RecordArguments} {sensors : List String}
    {w : RecordWriter FileLogger} (hup : d.isUp = true)
    (hcreate : RecordWriter.create
      (FileLogger.new s.folder a.name Run.recordExtension s.config.loggerBufferCount) Run.recordDescriptor d.files =
      (.ok (), w, files'))
    (hapart : Run.RecordsApart s earlier files'
      (Ledger.names (l ++ [{ name := a.name, sensors, paused := a.paused }]))) :
    Sound s earlier { d with
      files := files', writers := d.writers.insert a.name (w.setPaused a.paused)
      routes := Run.addRoutes d.routes sensors a.name }
      (l ++ [{ name := a.name, sensors, paused := a.paused }]) := by
  obtain ⟨p, id, files₁, data, hopened, happended, hserves⟩ :=
    RecordWriter.create_phone h.files rfl rfl rfl hcreate
  obtain ⟨e, hentry⟩ : ∃ e : LedgerEntry, e = { name := a.name, sensors, paused := a.paused } := ⟨_, rfl⟩
  have hname : a.name = e.name := by rw [hentry]
  have hsensors : sensors = e.sensors := by rw [hentry]
  have hpaused : a.paused = e.paused := by rw [hentry]
  have hholds : d.holds e = true := by simp [holds, hup, hentry]
  rw [← hentry] at hapart ⊢
  rw [hname] at hopened ⊢
  rw [hsensors, hpaused]
  have hnames : Ledger.names (l ++ [e]) = l.names ++ [e.name] := List.map_append
  rw [hnames] at hapart
  have hwithin : d.files.Within files' := hopened.within.trans happended.within
  have hplace : files'.locate s.folder (Run.recordFile e.name) = .ok p :=
    FileStore.locate_within hwithin hopened.place
  have hfresh : ∀ e' ∈ l, e.name ≠ e'.name := fun e' he' =>
    Ne.symm ((List.nodup_append.mp hapart.once).2.2 e'.name (mem_names he') e.name (List.mem_singleton.mpr rfl))
  obtain ⟨-, hid, hempty⟩ := hopened.new.resolve_left (h.unused hwithin hapart hplace id)
  have hother (i : Nat) (hi : i < d.files.contents.length) : files'.bytes i = d.files.bytes i := by
    rw [happended.bytes_of_ne i (by omega), hopened.bytes i hi]
  have hroutes := h.routes.create hholds
  refine ⟨happended.sound (hopened.sound h.files), h.sorted.insert _ _,
    fun hd => absurd hup (by simp [show d.isUp = false from hd]), fun n v hv => ?_, hroutes.nodup, hroutes.mem,
    fun e' he' => ?_, fun lg hlg => (h.log lg hlg).within hwithin, fun q i hq => ?_⟩
  · rw [Dict.get?_insert] at hv
    split at hv
    · next heq => exact ⟨e, by simp, heq, by rw [hentry]⟩
    · obtain ⟨e', he', hn, hopen⟩ := h.owner n v hv
      exact ⟨e', List.mem_append_left _ he', hn, hopen⟩
  · obtain he' | rfl := by simpa using he'
    · refine (h.entry e' he').transfer rfl (Dict.get?_insert_of_ne _ _ (hfresh e' he')) hwithin fun q i hplaced => ?_
      exact hother i (h.files.lt q i hplaced.find)
    · have himage : w.Serves files' id false e'.image := by
        rw [hempty, List.nil_append] at hserves
        simpa [hentry, LedgerEntry.image, RecordWriter.phoneHeader] using hserves
      refine ⟨p, id, ⟨hplace, ?_, hid ▸ h.files.le⟩,
        fun _ => ⟨_, Dict.get?_insert_self _ _ _, himage.setPaused e'.paused⟩, fun hnot => ?_⟩
      · exact (happended.find p).trans hopened.find
      · exact absurd hholds (by simp [show d.holds e' = false from hnot])
  · rw [hnames]
    by_cases hqp : q = p
    · subst hqp
      exact .inr (.inr ⟨e.name, by simp, hplace⟩)
    · have hold : d.files.find? q = some (.file i) := by
        rw [← hopened.find_of_ne q hqp, ← happended.find q]
        exact hq
      exact (h.known q i hold).within hwithin (by simp)

/-! ## The end of a run -/

def closeAll (writers : Dict (RecordWriter FileLogger)) (files : FileStore) : FileStore :=
  writers.foldl (fun files (_, writer) => (writer.close files).2.2) files

/-- The files once all writers and the log are closed. -/
def released (d : Desk) : FileStore :=
  match d.log with
  | some lg => (lg.close (closeAll d.writers d.files)).2.2
  | none => closeAll d.writers d.files

lemma closeAll_same (writers : Dict (RecordWriter FileLogger)) (files : FileStore) :
    (∀ p, (closeAll writers files).find? p = files.find? p) ∧
      (closeAll writers files).contents.length = files.contents.length := by
  induction writers generalizing files with
  | nil => exact ⟨fun _ => rfl, rfl⟩
  | cons q rest ih =>
    obtain ⟨hfind, hlength⟩ := ih (q.2.close files).2.2
    exact ⟨fun p => (hfind p).trans (q.2.sink.close_find? files p), hlength.trans (q.2.sink.close_length files)⟩

lemma released_same (d : Desk) :
    (∀ p, d.released.find? p = d.files.find? p) ∧ d.released.contents.length = d.files.contents.length := by
  obtain ⟨hfind, hlength⟩ := closeAll_same d.writers d.files
  rw [released]
  split
  · next lg _ => exact ⟨fun p => (lg.close_find? _ p).trans (hfind p), (lg.close_length _).trans hlength⟩
  · exact ⟨hfind, hlength⟩

lemma closeAll_bytes_of_ne {writers : Dict (RecordWriter FileLogger)} {id : Nat}
    (h : ∀ q ∈ writers, q.2.sink.handle ≠ some id) (files : FileStore) :
    (closeAll writers files).bytes id = files.bytes id := by
  induction writers generalizing files with
  | nil => rfl
  | cons q rest ih =>
    have hrest := ih (fun q' hq' => h q' (List.mem_cons_of_mem _ hq')) (q.2.close files).2.2
    exact hrest.trans (FileLogger.close_bytes_of_ne files (h q (List.mem_cons_self ..)))

/-- Of many writers that are closed, the one of a file leaves all of its recording there. -/
lemma closeAll_bytes {writers : Dict (RecordWriter FileLogger)} {name : String} {w : RecordWriter FileLogger}
    {id : Nat} {paused : Bool} {image : List UInt8} (hsorted : writers.Sorted) (hmem : (name, w) ∈ writers)
    (hserves : w.Serves files id paused image) (hid : id < files.contents.length)
    (hothers : ∀ q ∈ writers, q.1 ≠ name → q.2.sink.handle ≠ some id) :
    (closeAll writers files).bytes id = image := by
  induction writers generalizing files with
  | nil => cases hmem
  | cons q rest ih =>
    obtain ⟨hfirst, hrest⟩ := List.pairwise_cons.mp hsorted
    obtain rfl | hmem := List.mem_cons.mp hmem
    · obtain ⟨_, -, hbytes⟩ := hserves.close hid
      have hlater : ∀ q ∈ rest, q.2.sink.handle ≠ some id := by
        intro q hq
        refine hothers q (List.mem_cons_of_mem _ hq) fun heq => ?_
        exact String.lt_irrefl name (heq ▸ hfirst q hq)
      exact (closeAll_bytes_of_ne hlater _).trans hbytes
    · have hlt : q.1 < name := hfirst (name, w) hmem
      have hne : q.1 ≠ name := fun heq => String.lt_irrefl name (heq ▸ hlt)
      have hbytes := FileLogger.close_bytes_of_ne files (hothers q (List.mem_cons_self ..) hne)
      have hlength := q.2.sink.close_length files
      exact ih hrest hmem (hserves.transfer hbytes) (hlength ▸ hid)
        fun q' hq' => hothers q' (List.mem_cons_of_mem _ hq')

/-- Once everything is closed, the file of each record holds all of it. -/
lemma Sound.released_bytes (h : d.Sound s earlier l) (hapart : Run.RecordsApart s earlier d.files l.names)
    (he : e ∈ l) {p : Path} {id : Nat} (hplaced : Placed s earlier d.files e.name p id) :
    d.released.bytes id = e.image := by
  have hhandle (q : String × RecordWriter FileLogger) (hq : q ∈ d.writers) (hne : q.1 ≠ e.name) :
      q.2.sink.handle ≠ some id := by
    obtain ⟨e', he', hname, -, p', id', hplaced', hserves⟩ := h.writer (h.sorted.get?_of_mem (v := q.2) hq)
    rw [hserves.handle]
    intro heq
    have hdifferent : e'.name ≠ e.name := fun heq => hne (hname ▸ heq)
    exact hplaced'.ne hplaced hapart h.files (mem_names he') (mem_names he) hdifferent (Option.some.inj heq)
  have hclosed : (closeAll d.writers d.files).bytes id = e.image := by
    obtain ⟨p', id', hplaced', hopen, hshut⟩ := h.entry e he
    obtain rfl : p' = p := Except.ok.inj (hplaced'.place.symm.trans hplaced.place)
    obtain rfl : id' = id := by simpa using hplaced'.find.symm.trans hplaced.find
    cases hholds : d.holds e with
    | true =>
      obtain ⟨w, hw, hserves⟩ := hopen hholds
      exact closeAll_bytes h.sorted (Dict.mem_of_get? hw) hserves (h.files.lt _ _ hplaced.find) hhandle
    | false =>
      rw [closeAll_bytes_of_ne (fun q hq => hhandle q hq ?_), hshut hholds]
      intro heq
      have hw : d.writers.get? e.name = some q.2 := h.sorted.get?_of_mem (heq ▸ hq)
      obtain ⟨e', he', hname, hholds', -⟩ := h.writer hw
      rw [entry_eq hapart.once he' he hname, hholds] at hholds'
      cases hholds'
  rw [released]
  split
  · next lg hlg =>
    rw [FileLogger.close_bytes_of_ne, hclosed]
    intro hhandle
    obtain ⟨q, hq, hfind⟩ := (h.log lg hlg).handle id hhandle
    exact hplaced.ne_log hapart h.files he hq hfind rfl
  · exact hclosed

/-- A run that has stopped. -/
lemma Sound.fall (h : d.Sound s earlier l) (hapart : Run.RecordsApart s earlier d.files l.names) :
    Sound s earlier ⟨false, [], [], none, d.released⟩ l := by
  obtain ⟨hfind, hlength⟩ := d.released_same
  have hwithin : d.files.Within d.released := .of_find? hfind
  have hroutes : RoutesAgree false [] l := .of_closed (by simp)
  refine ⟨h.files.of_find? hfind hlength, Dict.sorted_nil, fun _ => ⟨rfl, rfl, rfl⟩, fun n w hw => ?_, hroutes.nodup,
    hroutes.mem, fun e he => ?_, fun lg hlg => ?_, fun p id hp => ?_⟩
  · cases hw
  · obtain ⟨p, id, hplaced, -, -⟩ := h.entry e he
    exact ⟨p, id, hplaced.within hwithin, fun hholds => by simp [holds] at hholds,
      fun _ => h.released_bytes hapart he hplaced⟩
  · cases hlg
  · rw [hfind p] at hp
    exact (h.known p id hp).within hwithin (List.Subset.refl _)

/-- A run that begins, with the records of an earlier one closed. -/
lemma Sound.rise (h : d.Sound s earlier l) (hdown : d.isUp = false) :
    Sound s earlier ⟨true, [], [], none, d.released⟩ l.closed := by
  obtain ⟨hwriters, -, hlog⟩ := h.down hdown
  have hreleased : d.released = d.files := by rw [released, hlog, hwriters]; rfl
  have hnames : l.closed.names = l.names := names_map l fun _ => rfl
  have hroutes : RoutesAgree true [] l.closed := .of_closed fun _ e he => Ledger.isOpen_of_closed he
  rw [hreleased]
  refine ⟨h.files, Dict.sorted_nil, fun hd => (by cases hd), fun n w hw => (by cases hw), hroutes.nodup, hroutes.mem,
    fun e he => ?_, fun lg hlg => (by cases hlg), fun p id hp => hnames ▸ h.known p id hp⟩
  · obtain ⟨e', he', rfl⟩ := List.mem_map.mp he
    obtain ⟨p, id, hplaced, -, hshut⟩ := h.entry e' he'
    exact ⟨p, id, hplaced, fun hholds => by simp [holds] at hholds, fun _ => hshut (by simp [holds, hdown])⟩

end Desk

end FieldStudy
