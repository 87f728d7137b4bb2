import Mathlib.Data.List.Nodup
import Mathlib.Tactic.Common
import FieldStudy.Proofs.Run.Accounts
import FieldStudy.Proofs.Run.Periods

/-!
# The table of routes

The names on the route of a sensor are those of the open records that list it, each once and in the order in which the
records were created (`Run.routes_follow_records`).  Both tables of a run, the writers and the routes, are told from
the listing of its open records, so the invariant is that they agree with it (`Desk.Routed`); it needs nothing from
the files, which other runs may change meanwhile.
-/

namespace FieldStudy

namespace Desk

/-! ## Open records in order -/

/-- The open records with the sensors that their nodes list, in the order in which they were created. -/
def listing (d : Desk) (l : Ledger) : List (String × List String) :=
  (l.filter d.holds).map fun e => (e.name, e.sensors)

variable {s : Setup} {d d' : Desk} {l l' : Ledger} {e : LedgerEntry}

lemma mem_listing {name : String} :
    name ∈ (d.listing l).map Prod.fst ↔ ∃ e ∈ l, e.name = name ∧ d.holds e = true := by
  simp only [listing, List.map_map, List.mem_map, List.mem_filter, Function.comp_apply]
  exact exists_congr fun e => by rw [and_assoc, and_comm (a := d.holds e = true)]

lemma listing_append (hholds : d.holds e = true) : d.listing (l ++ [e]) = d.listing l ++ [(e.name, e.sensors)] := by
  simp [listing, hholds]

/-- Changes that concern neither names, sensors nor openness. -/
lemma listing_map {change : LedgerEntry → LedgerEntry} (hup : d'.isUp = d.isUp)
    (hchange : ∀ e, (change e).name = e.name ∧ (change e).isOpen = e.isOpen ∧ (change e).sensors = e.sensors)
    (l : Ledger) : d'.listing (l.map change) = d.listing l := by
  have hholds : d'.holds ∘ change = d.holds := by
    funext e
    rw [Function.comp_apply, holds, holds, hup, (hchange e).2.1]
  rw [listing, listing, List.filter_map, List.map_map, hholds]
  refine List.map_congr_left fun e _ => ?_
  rw [Function.comp_apply, (hchange e).1, (hchange e).2.2]

lemma listing_pause (name : String) (paused : Bool) (l : Ledger) :
    d.listing (l.mark name fun e => { e with paused }) = d.listing l := by
  refine listing_map rfl (fun e => ?_) l
  split <;> exact ⟨rfl, rfl, rfl⟩

lemma listing_close (name : String) (l : Ledger) :
    d.listing (l.mark name fun e => { e with isOpen := false }) = (d.listing l).filter (·.1 != name) := by
  induction l with
  | nil => rfl
  | cons e rest ih =>
    rw [listing, listing, Ledger.mark] at ih
    rw [listing, listing, Ledger.mark, List.map_cons]
    by_cases hname : e.name = name
    · have hclosed : d.holds { e with isOpen := false } = false := Bool.and_false _
      rw [if_pos hname, List.filter_cons_of_neg (by simp [hclosed]), ih]
      by_cases hholds : d.holds e = true <;> simp [hholds, hname]
    · rw [if_neg hname]
      by_cases hholds : d.holds e = true <;> simp [hholds, hname, ih]

lemma listing_of_not_holds (h : ∀ e ∈ l, d.holds e = false) : d.listing l = [] := by
  rw [listing, List.filter_eq_nil_iff.mpr fun e he => by simp [h e he], List.map_nil]

/-! ## The invariant -/

/-- Writers and routes agree with the open records. -/
structure Routed (d : Desk) (listed : List (String × List String)) : Prop where
  down : d.isUp = false → d.writers = [] ∧ d.routes = []
  writer : ∀ name, d.writers.contains name = true ↔ name ∈ listed.map Prod.fst
  nodup : (listed.map Prod.fst).Nodup
  route : ∀ sensor, d.route sensor = (listed.filter (·.2.contains sensor)).map Prod.fst

namespace Routed

variable {listed : List (String × List String)}

lemma empty (isUp : Bool) (log : Option FileLogger) (files : FileStore) : Routed ⟨isUp, [], [], log, files⟩ [] where
  down _ := ⟨rfl, rfl⟩
  writer name := by simp [Dict.contains]
  nodup := List.nodup_nil
  route sensor := rfl

/-- Files and writers change, but no record is opened or closed. -/
lemma of_same (h : d.Routed listed) (hup : d'.isUp = d.isUp) (hroutes : d'.routes = d.routes)
    (hdown : d.writers = [] → d'.writers = [])
    (hkeys : ∀ name, d'.writers.contains name = d.writers.contains name) : d'.Routed listed where
  down hd := ⟨hdown (h.down (hup ▸ hd)).1, hroutes.trans (h.down (hup ▸ hd)).2⟩
  writer name := by rw [hkeys, h.writer]
  nodup := h.nodup
  route sensor := by rw [Desk.route, hroutes, ← Desk.route, h.route]

lemma refile (h : d.Routed listed) (files : FileStore) (log : Option FileLogger) :
    Routed { d with files, log } listed :=
  h.of_same rfl rfl (fun hnil => hnil) fun _ => rfl

lemma create (h : d.Routed listed) (hup : d.isUp = true) {name : String} (sensors : List String)
    (hclosed : d.writers.contains name = false) (w : RecordWriter FileLogger) (files : FileStore) :
    Routed { d with files, writers := d.writers.insert name w, routes := Run.addRoutes d.routes sensors name }
      (listed ++ [(name, sensors)]) := by
  have hnew : name ∉ listed.map Prod.fst := by
    rw [← h.writer, hclosed]
    exact Bool.false_ne_true
  refine ⟨fun hd => absurd (hup.symm.trans hd) (by decide), fun n => ?_, ?_, fun sensor => ?_⟩
  · rw [Dict.contains, Dict.get?_insert, List.map_append, List.mem_append, ← h.writer, Dict.contains]
    by_cases hn : name = n
    · simp [hn]
    · simp [hn, Ne.symm hn]
  · simpa using h.nodup.concat hnew
  · rw [Desk.route, route_addRoutes, List.filter_append, List.map_append, ← h.route, ← Desk.route]
    by_cases hsensor : sensor ∈ sensors
    · -- The name is on no route yet, so that it comes last.
      have hoff : (d.route sensor).contains name = false := by
        rw [h.route, List.contains_eq_mem]
        refine decide_eq_false fun hin => hnew ?_
        exact (List.filter_sublist.map Prod.fst).subset hin
      rw [if_pos hsensor, addName, hoff]
      simp [hsensor]
    · simp [hsensor]

lemma close (h : d.Routed listed) (name : String) (files : FileStore) :
    Routed { d with routes := Run.removeRoutes d.routes name, writers := d.writers.erase name, files }
      (listed.filter (·.1 != name)) := by
  refine ⟨fun hd => ?_, fun n => ?_, ?_, fun sensor => ?_⟩
  · obtain ⟨hwriters, hroutes⟩ := h.down hd
    exact ⟨by rw [hwriters]; rfl, by rw [hroutes]; rfl⟩
  · have hwriter := h.writer n
    rw [Dict.contains] at hwriter
    rw [Dict.contains, Dict.get?_erase]
    by_cases hn : name = n
    · simp [hn]
    · rw [if_neg hn, hwriter]
      simp only [List.mem_map, List.mem_filter]
      constructor
      · rintro ⟨p, hp, rfl⟩
        exact ⟨p, ⟨hp, by simpa using Ne.symm hn⟩, rfl⟩
      · rintro ⟨p, ⟨hp, -⟩, rfl⟩
        exact ⟨p, hp, rfl⟩
  · exact h.nodup.sublist ((List.filter_sublist).map _)
  · rw [Desk.route, route_removeRoutes, ← Desk.route, h.route, List.filter_map, List.filter_filter, List.filter_filter]
    congr 2
    funext p
    rw [Function.comp_apply, Bool.and_comm]

end Routed

/-! ## Bookings -/

lemma deliver_same (x : PhoneSample) (d : Desk) (name : String) :
    (d.deliver x name).routes = d.routes ∧ (d.writers = [] → (d.deliver x name).writers = []) ∧
      ∀ n, (d.deliver x name).writers.contains n = d.writers.contains n := by
  rw [deliver]
  cases hw : d.writers.get? name with
  | none => exact ⟨rfl, fun hnil => hnil, fun _ => rfl⟩
  | some w =>
    refine ⟨rfl, fun hnil => ?_, fun n => ?_⟩
    · rw [hnil] at hw
      cases hw
    · dsimp only
      rw [Dict.contains, Dict.contains, Dict.get?_insert]
      split
      · next heq => rw [← heq, hw]; rfl
      · rfl

lemma Routed.deliver_all {listed : List (String × List String)} (h : d.Routed listed) (x : PhoneSample)
    (names : List String) : (names.foldl (Desk.deliver x) d).Routed listed ∧
      (names.foldl (Desk.deliver x) d).isUp = d.isUp := by
  induction names generalizing d with
  | nil => exact ⟨h, rfl⟩
  | cons name rest ih =>
    obtain ⟨hroutes, hdown, hkeys⟩ := d.deliver_same x name
    obtain ⟨hrest, hup⟩ := ih (h.of_same (d.deliver_isUp x name) hroutes hdown hkeys)
    exact ⟨hrest, hup.trans (d.deliver_isUp x name)⟩

lemma Routed.entered {x y : Desk × Ledger} (h : x.1.Routed (x.1.listing x.2)) (hentered : Entered s x y) :
    y.1.Routed (y.1.listing y.2) := by
  obtain ⟨hbooked, hgenuine⟩ := hentered
  cases hbooked with
  | save hfile hwrite => exact h.refile _ _
  | furnish hfolders => exact h.refile _ _
  | note hup data => exact h.refile _ _
  | @create d l a sensors w files hup hcreate =>
    have hholds : d.holds { name := a.name, sensors, paused := a.paused } = true := by simp [holds, hup]
    have hcreated := h.create hup sensors (hgenuine _ rfl) (w.setPaused a.paused) files
    rwa [← listing_append hholds] at hcreated
  | repeated e hopen => exact absurd hopen (by simp [show Dict.contains _ e.name = false from hgenuine e rfl])
  | @close d l name =>
    have hclosed := h.close name ((d.writers.get? name).elim d.files fun w => (w.close d.files).2.2)
    rwa [← listing_close] at hclosed
  | @pause d l name paused =>
    show Routed _ (listing _ (l.mark name fun e => { e with paused }))
    rw [listing_pause]
    refine h.of_same rfl rfl (fun hnil => ?_) fun n => ?_
    · have hwriters : d.writers = [] := hnil
      show d.writers.adjust name _ = []
      rw [hwriters]
      rfl
    · show (d.writers.adjust name _).contains n = d.writers.contains n
      rw [Dict.contains, Dict.contains, Dict.get?_adjust]
      split <;> simp
  | @sample d l x sensor hframe =>
    obtain ⟨hrouted, hup⟩ := h.deliver_all x (d.route sensor)
    have hlisting : (d.sample x sensor).listing (l.map (d.receive x sensor)) = d.listing l := by
      refine listing_map hup (fun e => ?_) l
      rw [receive]
      split <;> exact ⟨rfl, rfl, rfl⟩
    show (d.sample x sensor).Routed ((d.sample x sensor).listing (l.map (d.receive x sensor)))
    rw [hlisting]
    exact hrouted
  | @fall d l =>
    show Routed _ (listing _ l)
    rw [listing_of_not_holds]
    · exact .empty false none d.released
    · exact fun _ _ => rfl
  | @rise d l hdown =>
    show Routed _ (listing _ l.closed)
    rw [listing_of_not_holds]
    · exact .empty true none d.released
    · intro e he
      obtain ⟨e', -, rfl⟩ := List.mem_map.mp he
      rfl

lemma Routed.enters {x y : Desk × Ledger} (h : x.1.Routed (x.1.listing x.2)) (henters : Enters s x y) :
    y.1.Routed (y.1.listing y.2) := by
  induction henters with
  | refl => exact h
  | tail _ hentered ih => exact ih.entered hentered

end Desk

/-! ## Runs -/

/-- The operation on a record that an action is. -/
def Action.record? : Action → Option (RecordOp × RecordArguments)
  | .record op a => some (op, a)
  | _ => none

namespace Run

variable {r : Run} {s : Setup} {i : Nat} {l : Ledger}

/-- The writers and the routes. -/
def tables (r : Run) : Dict (RecordWriter FileLogger) × Dict (List String) := (r.writers, r.routes)

lemma Modifies.tables {fs : List RunField} {r r' : Run} (h : Modifies fs r r') (hwriters : .writers ∉ fs)
    (hroutes : .routes ∉ fs) : r'.tables = r.tables :=
  Prod.ext (h .writers hwriters) (h .routes hroutes)

lemma routed_after (h : r.desk.Routed (r.desk.listing l)) (m : Move) :
    (r.after s m).desk.Routed ((r.after s m).desk.listing (l.periods s r m)) := by
  obtain ⟨shared, rfl⟩ | hown := m.others_or_own
  · exact h.refile shared.files r.log
  · refine Desk.Routed.enters (s := s) (x := (r.desk, l)) (y := ((r.after s m).desk, l.periods s r m)) h ?_
    refine enters_after l (fun shared heq => absurd heq (hown shared)) fun hup name => ?_
    have hholds (e : LedgerEntry) : r.desk.holds e = e.isOpen := by simp [Desk.holds, desk, hup]
    rw [Bool.eq_iff_iff, Ledger.isOpen, List.any_eq_true]
    refine ((h.writer name).trans Desk.mem_listing).trans ?_
    simp [hholds]

lemma routed_afterAll (h : r.desk.Routed (r.desk.listing l)) (moves : List Move) :
    (r.afterAll s moves).desk.Routed ((r.afterAll s moves).desk.listing (Ledger.allPeriods s r l moves)) := by
  induction moves generalizing r l with
  | nil => exact h
  | cons m rest ih => exact ih (routed_after h m)

/-! ## Steps that open and close records -/

lemma tables_record (r : Run) (s : Setup) (op : RecordOp) (a : RecordArguments) :
    (r.record s op a).2.tables = (r.changeRecord s op a).2.tables := by
  rw [record]
  split
  · next h => rw [h]
  · next q h =>
    rw [h]
    refine ((modifies_savedWith _ s 0).tables (by decide) (by decide)).trans ?_
    cases recordEvent? op with
    | none => rfl
    | some event => exact (q.modifies_updateMetadata _).tables (by decide) (by decide)

/-- A step that works on a record leaves the tables as the work on the record makes them, or stops the run. -/
lemma tables_step {op : RecordOp} {a : RecordArguments} (htaken : r.taken? s (.step i) = some (.record op a)) :
    (r.after s (.step i)).state = .stopped ∨
      ∃ p, (r.after s (.step i)).tables = (({ r with point := some p } : Run).changeRecord s op a).2.tables := by
  obtain ⟨t, p, ht, hstatus, haction⟩ := taken?_step_iff.mp htaken
  obtain ⟨hlive, node, hnode, hok, hends⟩ := action?_eq_some_iff.mp haction
  have hrecord := ({ r with point := some p } : Run).tables_record s op a
  have hstep : r.after s (.step i) = (({ r with point := some p } : Run).record s op a).2.close s i t p
      (.acted node (({ r with point := some p } : Run).record s op a).1) := by
    rw [after, step?_entering s ht hstatus, Option.getD_some, enter,
      show ({ r with point := some p } : Run).isLive t.token = true from hlive]
    simp only [Bool.not_true, Bool.false_eq_true, if_false, hnode, hok, hends]
    rfl
  rw [hstep]
  generalize (({ r with point := some p } : Run).record s op a) = x at hrecord
  obtain hmodifies | ⟨error, q, -, -, hstop⟩ := x.2.close_cases s i t p (.acted node x.1)
  · exact .inr ⟨p, (hmodifies.tables (by decide) (by decide)).trans hrecord⟩
  · rw [hstop]
    exact .inl (q.state_stop s error)

/-- Whether a move works on a record can be computed, although actions cannot be compared. -/
lemma taken?_of_record? {m : Move} {op : RecordOp} {a : RecordArguments}
    (h : (r.taken? s m).bind Action.record? = some (op, a)) : r.taken? s m = some (.record op a) := by
  obtain ⟨action, htaken, hrecord⟩ := Option.bind_eq_some_iff.mp h
  cases action with
  | record op' a' =>
    obtain ⟨rfl, rfl⟩ := Prod.mk.inj (Option.some.inj hrecord)
    exact htaken
  | _ => cases hrecord

lemma tables_closeRecord (r : Run) (name : String) :
    (r.closeRecord name).2.tables = (r.writers.erase name, removeRoutes r.routes name) := by
  rw [closeRecord]
  cases r.writers.get? name <;> rfl

/-- At any time the route of a sensor lists the open records whose nodes list the sensor, in the order in which they
were created and each once, and there is a writer for each open record and no other.  Creating a record that is open
changes neither table; closing one takes it from every route and its writer away, and no other.  A run that has stopped
has neither writers nor routes. -/
theorem routes_follow_records (x : Ensemble) (s : Setup) (moves : List Move) :
    let r := (x.newRun s).afterAll s moves
    let l := Ledger.allPeriods s (x.newRun s) [] moves
    (∀ sensor, r.desk.route sensor = Ledger.names (l.filter fun e => r.desk.holds e && e.sensors.contains sensor) ∧
      (r.desk.route sensor).Nodup) ∧
    (∀ name, r.writers.contains name = true ↔ ∃ e ∈ l, e.name = name ∧ r.desk.holds e = true) ∧
    (∀ i a, r.taken? s (.step i) = some (.record .create a) → r.writers.contains a.name = true →
      let q := r.after s (.step i)
      q.state = .stopped ∨ (q.writers = r.writers ∧ q.routes = r.routes)) ∧
    (∀ i a, r.taken? s (.step i) = some (.record .close a) →
      let q := r.after s (.step i)
      q.state = .stopped ∨ (q.writers = r.writers.erase a.name ∧
        ∀ sensor, q.desk.route sensor = (r.desk.route sensor).filter (· != a.name))) ∧
    (r.state = .stopped → r.writers = [] ∧ r.routes = []) := by
  intro r l
  have hrouted : r.desk.Routed (r.desk.listing l) :=
    routed_afterAll (r := x.newRun s) (l := []) (.empty false none x.files) moves
  refine ⟨fun sensor => ?_, fun name => ?_, fun i a htaken hopen => ?_, fun i a htaken => ?_, fun hstopped => ?_⟩
  · have hroute : r.desk.route sensor =
        Ledger.names (l.filter fun e => r.desk.holds e && e.sensors.contains sensor) := by
      rw [hrouted.route, Desk.listing, List.filter_map, List.map_map, List.filter_filter, Ledger.names]
      exact congrArg (List.map _) (List.filter_congr fun e _ => Bool.and_comm _ _)
    refine ⟨hroute, ?_⟩
    rw [hrouted.route]
    exact hrouted.nodup.sublist (List.filter_sublist.map _)
  · exact (hrouted.writer name).trans Desk.mem_listing
  · refine (tables_step htaken).imp_right ?_
    rintro ⟨p, htables⟩
    have hidle := ({ r with point := some p } : Run).desk_createRecord_idle s (.inl hopen)
    obtain ⟨hwriters, hroutes⟩ := Prod.mk.inj htables
    exact ⟨hwriters.trans (congrArg Desk.writers hidle), hroutes.trans (congrArg Desk.routes hidle)⟩
  · refine (tables_step htaken).imp_right ?_
    rintro ⟨p, htables⟩
    obtain ⟨hwriters, hroutes⟩ := Prod.mk.inj (htables.trans (tables_closeRecord _ a.name))
    refine ⟨hwriters, fun sensor => ?_⟩
    have hroute : (r.after s (.step i)).desk.route sensor =
        ((removeRoutes r.routes a.name).get? sensor).getD [] :=
      congrArg (fun routes : Dict (List String) => (routes.get? sensor).getD []) hroutes
    rw [hroute, Desk.route_removeRoutes]
    rfl
  · exact hrouted.down (by simp [desk, hstopped])

/-- Two records of the accelerometer, which the node of the first one lists twice; the first one is created once more
with other sensors, then it is closed, and the run is stopped. -/
theorem routes_follow_records_walk :
    let record (primitive : PrimitiveName) (name : String) (sensors : List String) (next : String) : Node :=
      { Node.ofPrimitive primitive with
        arguments := .obj [("name", .str name), ("sensors", .arr (sensors.map .str))], next := [some next] }
    let nodes : Dict Node :=
      [("a", record .recordCreate "walk" [SensorType.acc, SensorType.gyr, SensorType.acc] "b"),
        ("b", record .recordCreate "run" [SensorType.acc] "c"),
        ("c", record .recordCreate "walk" [SensorType.gyr] "d"),
        ("d", record .recordClose "walk" [] "e"), ("e", Node.ofPrimitive .waitNext)]
    let s : Setup := { definition := { scenarioId := 1, content := { entry := "a", nodes } }, folder := ["run"] }
    let x : Ensemble := { files := {} }
    let r := (x.newRun s).afterAll s [.start, .step 0, .step 0]
    let again := r.after s (.step 0)
    let closed := again.after s (.step 0)
    let stopped := (x.newRun s).afterAll s [.start, .step 0, .step 0, .step 0, .step 0, .stop none]
    r.desk.route SensorType.acc = ["walk", "run"] ∧ again.routes = r.routes ∧
      closed.writers = again.writers.erase "walk" ∧ stopped.writers = [] := by
  intro record nodes s x r again closed stopped
  obtain ⟨hroutes, -, hcreate, -, -⟩ := routes_follow_records x s [.start, .step 0, .step 0]
  have hagain := routes_follow_records x s ([.start, .step 0, .step 0] ++ [.step 0])
  rw [afterAll_snoc] at hagain
  obtain ⟨-, -, -, hclose, -⟩ := hagain
  obtain ⟨-, -, -, -, hstop⟩ := routes_follow_records x s [.start, .step 0, .step 0, .step 0, .step 0, .stop none]
  have hcreates : r.taken? s (.step 0) = some (.record .create ⟨"walk", none, some [SensorType.gyr], none, false⟩) :=
    taken?_of_record? (by decide +kernel)
  have hcloses : again.taken? s (.step 0) = some (.record .close ⟨"walk", none, some [], none, false⟩) :=
    taken?_of_record? (by decide +kernel)
  have hsame := ((hcreate 0 _ hcreates (by decide +kernel)).resolve_left (by decide +kernel)).2
  have herased := ((hclose 0 _ hcloses).resolve_left (by decide +kernel)).1
  exact ⟨(hroutes SensorType.acc).1.trans (by decide +kernel), hsame, herased, (hstop (by decide +kernel)).1⟩

end Run

end FieldStudy
