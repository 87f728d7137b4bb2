import Mathlib.Data.List.Basic
import FieldStudy.Proofs.Run.Filing
import FieldStudy.Proofs.Storage.Contents

/-!
# Where samples go

What has been written for a record stands in its file and behind that in its logger (`Desk.written`).  A sample adds a
frame there when the record is open and not paused and lists the sensor, and the role of the sample is not paused.  The
roles that the node of a record names play no part in it (`Run.samples_reach_every_role`).
-/

namespace FieldStudy

namespace Desk

variable {s : Setup} {d : Desk} {l : Ledger} {e : LedgerEntry} {p : Path} {w : RecordWriter FileLogger}
  {x : PhoneSample} {sensor : String}

/-- What has been written for a record whose file is at a path. -/
def written (d : Desk) (p : Path) (name : String) : List UInt8 :=
  d.files.contentsAt p ++ (d.writers.get? name).elim [] (·.sink.pending)

/-- The file of a record, as its writer sees it. -/
lemma written_of_serves {files : FileStore} {id : Nat} {paused : Bool} {image : List UInt8} {name : String}
    (hfiles : d.files = files) (hw : d.writers.get? name = some w) (hfind : files.find? p = some (.file id))
    (hserves : w.Serves files id paused image) : d.written p name = image := by
  rw [written, hw, hfiles, FileStore.contentsAt_of_find? hfind]
  exact hserves.bytes

lemma deliver_of_get? (hw : d.writers.get? e.name = some w) {w' : RecordWriter FileLogger} {files : FileStore}
    (hwrite : w.write x.frame (.uint x.timestamp) (x.values.map fun v => .float v.toDouble) d.files =
      (.ok (), w', files)) :
    d.deliver x e.name = { d with writers := d.writers.insert e.name w', files } := by
  rw [deliver, hw]
  dsimp only
  rw [hwrite]

lemma deliver_all_isUp (x : PhoneSample) (d : Desk) (names : List String) :
    (names.foldl (Desk.deliver x) d).isUp = d.isUp := by
  induction names generalizing d with
  | nil => rfl
  | cons name rest ih => exact (ih _).trans (deliver_isUp x d name)

namespace Filed

/-- A sample that reaches a record is written for it, unless the record is paused. -/
lemma written_deliver_self (h : d.Filed s l) (he : e ∈ l) (hholds : d.holds e = true)
    (hplace : d.files.locate s.folder (Run.recordFile e.name) = .ok p)
    (hframe : SensorType.frameId? sensor = some x.frame) :
    (d.deliver x e.name).written p e.name = d.written p e.name ++ if e.paused then [] else x.bytes := by
  obtain ⟨w, hw, htends⟩ := h.writer he hholds
  obtain ⟨p', id, image, hplace', hfind, hserves⟩ := htends.serves
  obtain rfl : p = p' := Except.ok.inj (hplace.symm.trans hplace')
  obtain ⟨w', files', data, hwrite, happended, hserves'⟩ :=
    hserves.write (h.files.lt p id hfind) hframe x.timestamp x.values
  rw [deliver_of_get? hw hwrite, written_of_serves rfl hw hfind hserves,
    written_of_serves rfl (Dict.get?_insert_self _ _ _) ((happended.find p).trans hfind) hserves']
  split <;> simp

/-- A sample that reaches another record changes nothing here, as long as that has its file elsewhere. -/
lemma written_deliver_other (h : d.Filed s l) {name other : String} (hne : other ≠ name)
    (hplace : d.files.locate s.folder (Run.recordFile other) ≠ .ok p)
    (hframe : SensorType.frameId? sensor = some x.frame) :
    (d.deliver x other).written p name = d.written p name := by
  cases hw : d.writers.get? other with
  | none => rw [Desk.deliver, hw]
  | some w =>
    obtain ⟨e, he, rfl, -, htends⟩ := h.owner other w hw
    obtain ⟨q, id, w', files', data, hplace', hfind, hwrite, -, happended⟩ :=
      htends.write h.files hframe x.timestamp x.values
    have hpq : p ≠ q := fun heq => hplace (heq ▸ hplace')
    rw [deliver_of_get? hw hwrite, written, written, Dict.get?_insert_of_ne _ _ hne,
      happended.contentsAt_of_ne h.files hfind hpq]

/-- Samples leave all names where they lead. -/
lemma locate_deliver_all (h : d.Filed s l) (hframe : SensorType.frameId? sensor = some x.frame) (names : List String)
    (folder : Path) (file : String) :
    (names.foldl (Desk.deliver x) d).files.locate folder file = .ok p ↔ d.files.locate folder file = .ok p := by
  have hfind (name : String) {d : Desk} (h : d.Filed s l) (q : Path) :
      (d.deliver x name).files.find? q = d.files.find? q := by
    cases hw : d.writers.get? name with
    | none => rw [Desk.deliver, hw]
    | some w =>
      obtain ⟨e, he, rfl, -, htends⟩ := h.owner name w hw
      obtain ⟨p, id, w', files', data, -, -, hwrite, -, happended⟩ := htends.write h.files hframe x.timestamp x.values
      rw [deliver_of_get? hw hwrite]
      exact happended.find q
  induction names generalizing d with
  | nil => rfl
  | cons name rest ih =>
    refine (ih (h.deliver hframe name)).trans ⟨FileStore.locate_within fun q e hq => (hfind name h q).symm.trans hq,
      FileStore.locate_within fun q e hq => (hfind name h q).trans hq⟩

lemma written_deliver_others (h : d.Filed s l) (hframe : SensorType.frameId? sensor = some x.frame)
    {names : List String} {name : String}
    (hothers : ∀ n ∈ names, n ≠ name ∧ d.files.locate s.folder (Run.recordFile n) ≠ .ok p) :
    (names.foldl (Desk.deliver x) d).written p name = d.written p name := by
  induction names generalizing d with
  | nil => rfl
  | cons other rest ih =>
    obtain ⟨hne, hplace⟩ := hothers other (List.mem_cons_self ..)
    refine (ih (h.deliver hframe other) fun n hn => ?_).trans (h.written_deliver_other hne hplace hframe)
    obtain ⟨hne', hplace'⟩ := hothers n (List.mem_cons_of_mem other hn)
    exact ⟨hne', fun heq => hplace' ((h.locate_deliver_all hframe [other] _ _).mp heq)⟩

/-- The routes lead to a record that goes on exactly from the sensors that it lists. -/
lemma mem_route (h : d.Filed s l) (he : e ∈ l) (hholds : d.holds e = true) :
    e.name ∈ d.route sensor ↔ sensor ∈ e.sensors := by
  rw [h.routed]
  refine ⟨?_, fun hsensor => ⟨e, he, rfl, hholds, hsensor⟩⟩
  rintro ⟨e', he', hname, hholds', hsensor⟩
  obtain rfl := h.eq_of_open he' he hname (Bool.and_eq_true_iff.mp hholds').2 (Bool.and_eq_true_iff.mp hholds).2
  exact hsensor

/-- A sample of a sensor is written for a record that goes on if it lists the sensor and is not paused. -/
lemma written_sample (h : d.Filed s l) (he : e ∈ l) (hholds : d.holds e = true)
    (hplace : d.files.locate s.folder (Run.recordFile e.name) = .ok p)
    (hothers : ∀ n ∈ d.route sensor, n ≠ e.name → d.files.locate s.folder (Run.recordFile n) ≠ .ok p)
    (hframe : SensorType.frameId? sensor = some x.frame) :
    (d.sample x sensor).written p e.name =
      d.written p e.name ++ if !e.paused && e.sensors.contains sensor then x.bytes else [] := by
  rw [Desk.sample]
  by_cases hin : e.name ∈ d.route sensor
  · -- The record is on the route once, and nobody else who is adds to its file.
    obtain ⟨before, behind, hroute⟩ := List.append_of_mem hin
    have hnodup := h.nodup sensor
    rw [hroute] at hnodup hothers ⊢
    obtain ⟨-, hbehind, hapart⟩ := List.nodup_append.mp hnodup
    have hbefore : ∀ n ∈ before, n ≠ e.name ∧ d.files.locate s.folder (Run.recordFile n) ≠ .ok p := by
      intro n hn
      have hne := hapart n hn e.name (List.mem_cons_self ..)
      exact ⟨hne, hothers n (List.mem_append_left _ hn) hne⟩
    have hfiled := h.deliver_all hframe before
    have hholds' : (before.foldl (Desk.deliver x) d).holds e = true := by
      rw [holds, deliver_all_isUp]
      exact hholds
    have hplace' := (h.locate_deliver_all hframe before s.folder _).mpr hplace
    have hrest : ∀ n ∈ behind, n ≠ e.name ∧
        ((before.foldl (Desk.deliver x) d).deliver x e.name).files.locate s.folder (Run.recordFile n) ≠ .ok p := by
      intro n hn
      have hne : n ≠ e.name := by
        rintro rfl
        exact (List.nodup_cons.mp hbehind).1 hn
      refine ⟨hne, fun heq => hothers n (List.mem_append_right _ (List.mem_cons_of_mem _ hn)) hne ?_⟩
      have hback := (hfiled.locate_deliver_all hframe [e.name] s.folder (Run.recordFile n)).mp heq
      exact (h.locate_deliver_all hframe before s.folder _).mp hback
    rw [List.foldl_append, List.foldl_cons, (hfiled.deliver hframe e.name).written_deliver_others hframe hrest,
      hfiled.written_deliver_self he hholds' hplace' hframe, h.written_deliver_others hframe hbefore]
    cases e.paused <;> simp [(h.mem_route he hholds).mp hin]
  · have hall : ∀ n ∈ d.route sensor, n ≠ e.name ∧ d.files.locate s.folder (Run.recordFile n) ≠ .ok p := by
      intro n hn
      have hne : n ≠ e.name := fun heq => hin (heq ▸ hn)
      exact ⟨hne, hothers n hn hne⟩
    have hsensor : sensor ∉ e.sensors := fun hsensor => hin ((h.mem_route he hholds).mpr hsensor)
    rw [h.written_deliver_others hframe hall]
    simp [hsensor]

end Filed

end Desk

/-- The bytes of the frame that a sample is to add to a record. -/
def LedgerEntry.frame (e : LedgerEntry) (r : Run) (role sensor : String) (timestamp : UInt64) (values : List Single) :
    List UInt8 :=
  match SensorType.frameId? sensor with
  | some frame => if e.takes r role sensor then (⟨frame, timestamp, values⟩ : PhoneSample).bytes else []
  | none => []

namespace Run

variable (r : Run) (s : Setup)

/-- The roles that a node names do nothing for a record of samples. -/
lemma record_roles (op : RecordOp) {a : RecordArguments} (hmic : (a.sensors.getD []).head? ≠ some SensorType.mic)
    (roles : Option (List String)) : r.record s op { a with roles } = r.record s op a := by
  have hcreate : r.createRecord s { a with roles } = r.createRecord s a := by
    rw [createRecord, createRecord]
    dsimp only
    generalize a.sensors.getD [] = sensors at hmic
    cases sensors with
    | nil => rfl
    | cons first others =>
      have hfirst : first ≠ SensorType.mic := fun heq => hmic (congrArg some heq)
      dsimp only
      rw [if_neg hfirst, if_neg hfirst]
      rfl
  cases op with
  | create => rw [record, record, changeRecord, changeRecord, hcreate]
  | _ => rfl

/-- A sample is written for a record exactly when the record is open and not paused, its node lists the sensor and the
role is not paused, whatever roles the node names: the sample of one role does all that the sample of another does. -/
theorem samples_reach_every_role (x : Ensemble) (s : Setup) (moves : List Move) (hfiles : x.files.Sound 0)
    (hmoves : (x.newRun s).AllUnshared s moves) :
    let r := (x.newRun s).afterAll s moves
    let l := Ledger.allPeriods s (x.newRun s) [] moves
    (∀ op a roles, (a.sensors.getD []).head? ≠ some SensorType.mic →
      r.record s op { a with roles } = r.record s op a) ∧
    ∀ role sensor timestamp values,
      (∀ other, (r.roles.get? other).any (·.isPaused) = (r.roles.get? role).any (·.isPaused) →
        r.sample other sensor timestamp values = r.sample role sensor timestamp values) ∧
      ∀ e ∈ l, r.state ≠ .stopped → e.isOpen = true →
        ∀ p, r.files.locate s.folder (recordFile e.name) = .ok p →
          (∀ name, r.writers.contains name = true → name ≠ e.name →
            r.files.locate s.folder (recordFile name) ≠ .ok p) →
          (r.sample role sensor timestamp values).desk.written p e.name =
            r.desk.written p e.name ++ e.frame r role sensor timestamp values := by
  intro r l
  have hfiled : r.desk.Filed s l := filed_afterAll (filed_newRun (s := s) hfiles) hmoves
  refine ⟨fun op a roles hmic => r.record_roles s op hmic roles, fun role sensor timestamp values =>
    ⟨fun other hpaused => ?_, fun e he hup hopen p hplace hothers => ?_⟩⟩
  · rw [sample, sample, hpaused]
  · have hholds : r.desk.holds e = true := by simp [Desk.holds, desk, hup, hopen]
    rw [LedgerEntry.frame, sample]
    cases hframe : SensorType.frameId? sensor with
    | none => simp
    | some frame =>
      dsimp only
      cases hrole : (r.roles.get? role).any (·.isPaused) with
      | true => simp [LedgerEntry.takes, hrole]
      | false =>
        obtain ⟨y, hy⟩ : ∃ y : PhoneSample, y = ⟨frame, timestamp, values⟩ := ⟨_, rfl⟩
        have hsample : (((r.routes.get? sensor).getD []).foldl (fun r name =>
            r.writeSample y.frame (.uint y.timestamp) (y.values.map fun v => .float v.toDouble) name) r).desk =
            r.desk.sample y sensor :=
          (List.foldl_hom desk fun q name => (q.desk_writeSample y name).symm).symm
        have hroute : ∀ n ∈ r.desk.route sensor, n ≠ e.name →
            r.desk.files.locate s.folder (recordFile n) ≠ .ok p := by
          intro n hn hne
          obtain ⟨e', he', rfl, hholds', -⟩ := (hfiled.routed sensor n).mp hn
          exact hothers e'.name (hfiled.opened e' he' hholds') hne
        have hwritten := hfiled.written_sample (x := y) he hholds hplace hroute (by rw [hframe, hy])
        rw [← hsample, hy] at hwritten
        rw [if_neg Bool.false_ne_true]
        refine hwritten.trans ?_
        simp [LedgerEntry.takes, hrole, hup, hopen, Bool.and_comm]

/-- A scenario with a record of the accelerometer of one role. -/
def leftSetup : Setup :=
  let create : Node :=
    { Node.ofPrimitive .recordCreate with
      arguments := .obj
        [("name", .str "walk"), ("sensors", .str SensorType.acc), ("devices", .arr [.str "left"])]
      next := [some "b"] }
  { definition :=
      { scenarioId := 1
        content := { entry := "a", nodes := [("a", create), ("b", Node.ofPrimitive .waitNext)] } }
    folder := ["run"] }

/-- The record is created. -/
def leftMoves : List Move := [.start, .step 0, .step 0]

/-- A sample of a role that the record does not name. -/
theorem samples_reach_every_role_right :
    let one : Single := ⟨0x3f800000⟩
    let r := (({ files := {} } : Ensemble).newRun leftSetup).afterAll leftSetup leftMoves
    (r.sample "right" SensorType.acc 5 [one]).desk.written ["run", "walk.bin"] "walk" =
      r.desk.written ["run", "walk.bin"] "walk" ++ (⟨Phone.accId, 5, [one]⟩ : PhoneSample).bytes := by
  intro one r
  obtain ⟨e, he⟩ : ∃ e : LedgerEntry, e = ⟨"walk", [SensorType.acc], true, false, []⟩ := ⟨_, rfl⟩
  have hentries : Ledger.allPeriods leftSetup (({ files := {} } : Ensemble).newRun leftSetup) [] leftMoves =
      [⟨"walk", [SensorType.acc], true, false, []⟩] := by decide +kernel
  have hrunning : r.state ≠ .stopped := by decide +kernel
  have hwriters : r.writers.map (·.1) = ["walk"] := by decide +kernel
  have hplace : r.files.locate ["run"] (recordFile "walk") = .ok ["run", "walk.bin"] := by decide +kernel
  have hframe : (⟨"walk", [SensorType.acc], true, false, []⟩ : LedgerEntry).frame r "right" SensorType.acc 5 [one] =
      (⟨Phone.accId, 5, [one]⟩ : PhoneSample).bytes := by decide +kernel
  have hmoves : (({ files := {} } : Ensemble).newRun leftSetup).AllUnshared leftSetup leftMoves := by
    simp [leftMoves, AllUnshared, Unshared]
  rw [← he] at hentries hframe
  have hname : "walk" = e.name := by rw [he]
  have hopen : e.isOpen = true := by rw [he]
  have hothers : ∀ name, r.writers.contains name = true → name ≠ e.name →
      r.files.locate ["run"] (recordFile name) ≠ .ok ["run", "walk.bin"] := by
    intro name hcontains hne
    obtain ⟨w, hw⟩ := Option.isSome_iff_exists.mp hcontains
    have hkey : name ∈ r.writers.map (·.1) := List.mem_map_of_mem (Dict.mem_of_get? hw)
    rw [hwriters] at hkey
    exact absurd ((List.mem_singleton.mp hkey).trans hname) hne
  have hmem : e ∈ Ledger.allPeriods leftSetup (({ files := {} } : Ensemble).newRun leftSetup) [] leftMoves := by
    rw [hentries]
    exact List.mem_singleton.mpr rfl
  obtain ⟨-, hsamples⟩ :=
    samples_reach_every_role { files := {} } leftSetup leftMoves FileStore.sound_empty hmoves
  obtain ⟨-, hreach⟩ := hsamples "right" SensorType.acc 5 [one]
  rw [hname] at hplace ⊢
  rw [← hframe]
  exact hreach e hmem hrunning hopen _ hplace hothers

/-- A sample of the right device lands in the file of a record whose node names the left one alone. -/
theorem samples_reach_every_role_mixed :
    let one : Single := ⟨0x3f800000⟩
    let started := (({ files := {} } : Ensemble).newRun leftSetup).after leftSetup .start
    let r := (({ files := {} } : Ensemble).newRun leftSetup).afterAll leftSetup
      (leftMoves ++ [.sample "right" SensorType.acc 5 [one], .stop none])
    started.taken? leftSetup (.step 0) =
        some (.record .create ⟨"walk", none, some [SensorType.acc], some ["left"], false⟩) ∧
      r.files.read? ["run", "walk.bin"] =
        some (RecordWriter.phoneHeader ++ (⟨Phone.accId, 5, [one]⟩ : PhoneSample).bytes) :=
  ⟨rfl, by decide +kernel⟩

end Run

end FieldStudy
