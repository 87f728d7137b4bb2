import Mathlib.Tactic.Common
import FieldStudy.Proofs.Run.Servicing

/-!
# Listeners of roles that are bound anew

A run remembers its listeners by role and sensor, and asks the backend for the device that is bound to the role at that
time.  So each listener that has been started is stopped before the run is over, but of the device that its role has
then: of the device it was started on only if the role is not given another one while it listens
(`Run.listeners_stopped_as_bound`, `Run.listeners_stopped_as_bound_leaks`).
-/

namespace FieldStudy

lemma BackendCall.role_of_starts? {call : BackendCall} {pair : String × String} (h : call.starts? = some pair) :
    call.target.role = pair.1 := by
  cases call with
  | startListening b sensor interval config => exact congrArg Prod.fst (Option.some.inj h)
  | _ => cases h

lemma BackendCall.role_of_stops? {call : BackendCall} {pair : String × String} (h : call.stops? = some pair) :
    call.target.role = pair.1 := by
  cases call with
  | stopListening b sensor => exact congrArg Prod.fst (Option.some.inj h)
  | _ => cases h

/-- One of these calls is to stop the pair. -/
def HasStop (pair : String × String) (es : List Exchange) : Prop := ∃ e ∈ es, e.call.stops? = some pair

lemma HasStop.append_left {pair : String × String} {es : List Exchange} (earlier : List Exchange)
    (h : HasStop pair es) : HasStop pair (earlier ++ es) := by
  obtain ⟨e, he, hstop⟩ := h
  exact ⟨e, List.mem_append_right _ he, hstop⟩

lemma HasStop.append_right {pair : String × String} {es : List Exchange} (later : List Exchange)
    (h : HasStop pair es) : HasStop pair (es ++ later) := by
  obtain ⟨e, he, hstop⟩ := h
  exact ⟨e, List.mem_append_left _ he, hstop⟩

namespace Rig

variable {g g' : Rig} {e : Exchange} {es earlier later : List Exchange} {pair : String × String}

/-- The device that is bound to a role. -/
def device? (g : Rig) (role : String) : Option Device := (g.roles.get? role).map RoleBinding.device

lemma device?_of_bound {b : RoleBinding} (h : g.roles.get? b.role = some b) : g.device? b.role = some b.device := by
  rw [device?, h, Option.map_some]

/-- What listens does so until a call is to stop it. -/
lemma Change.listening (h : g.Change e g') (hpair : pair ∈ g.listening) :
    pair ∈ g'.listening ∨ e.call.stops? = some pair := by
  cases h with
  | refused => exact .inl hpair
  | listens => exact .inl (List.mem_cons_of_mem _ hpair)
  | @unlistens b sensor =>
    by_cases heq : pair = (b.role, sensor)
    · exact .inr (congrArg some heq.symm)
    · exact .inl (List.mem_filter.mpr ⟨hpair, by simpa using heq⟩)
  | records => exact .inl hpair
  | unrecords => exact .inl hpair

lemma Change.started (h : g.Change e g') (hstarted : e.hasStarted pair = true) : pair ∈ g'.listening := by
  obtain ⟨hstarts, hdone⟩ := Bool.and_eq_true_iff.mp hstarted
  cases h with
  | refused hrefused => simp [hrefused] at hdone
  | @listens b sensor interval config =>
    have heq : (b.role, sensor) = pair := Option.some.inj (beq_iff_eq.mp hstarts)
    exact heq ▸ List.mem_cons_self
  | _ => cases beq_iff_eq.mp hstarts

lemma Deals.listening (h : g.Deals es g') (hpair : pair ∈ g.listening) : pair ∈ g'.listening ∨ HasStop pair es := by
  induction h with
  | refl g => exact .inl hpair
  | @cons g g' g'' e es hbound hchange _ ih =>
    obtain hlistens | hstops := hchange.listening hpair
    · refine (ih hlistens).imp_right ?_
      rintro ⟨e', he', hstops⟩
      exact ⟨e', List.mem_cons_of_mem _ he', hstops⟩
    · exact .inr ⟨e, List.mem_cons_self, hstops⟩

/-- What a call has started listens when the dealings are over, unless a later call is to stop it. -/
lemma Deals.started (h : g.Deals (earlier ++ e :: later) g') (hstarted : e.hasStarted pair = true) :
    pair ∈ g'.listening ∨ HasStop pair later := by
  induction earlier generalizing g with
  | nil =>
    cases h with
    | cons hbound hchange hrest => exact hrest.listening (hchange.started hstarted)
  | cons e' earlier ih =>
    cases h with
    | cons hbound hchange hrest => exact ih hrest

end Rig

namespace Run

variable {r r' q : Run} {s : Setup} {m : Move} {e : Exchange} {pair : String × String}

/-- The move gives another device to the role of a pair that listens. -/
def Reassigns (s : Setup) (pair : String × String) (q : Run) (m : Move) : Prop :=
  pair ∈ q.listening ∧ (q.after s m).rig.device? pair.1 ≠ q.rig.device? pair.1

lemma not_reassigns_stop (s : Setup) (pair : String × String) (q : Run) (error : Option ScenarioError) :
    ¬ Reassigns s pair q (.stop error) := by
  rintro ⟨-, hchanged⟩
  have hroles : (q.stop s error).rig.roles = q.rig.roles := by
    obtain ⟨hrig, -⟩ | ⟨-, -, stops, -, hoff⟩ := q.quits_stop s error
    · rw [hrig]
    · rw [hoff]
      rfl
  exact hchanged (congrArg (fun roles => (Dict.get? roles pair.1).map RoleBinding.device) hroles)

/-- Each call of a move is for a binding as the move leaves it. -/
lemma bound_trades (h : r.Rigged) (hstart : ¬ (m = .start ∧ r.state = .stopped)) :
    ∀ e ∈ r.trades s m, (r.after s m).roles.get? e.call.target.role = some e.call.target := by
  obtain ⟨shared, rfl⟩ | hown := m.others_or_own
  · exact fun e he => absurd he List.not_mem_nil
  · cases serviced_after (s := s) (fun _ => h.sound) hstart hown with
    | goesOn hrebinds hdeals hstate htrades =>
      have hroles : (r.after s m).roles = _ := hdeals.roles
      rw [htrades, hroles]
      exact hdeals.bound
    | @ends g g' stops hrebinds hdeals hgoes hstopped hoff htrades hstops =>
      have hroles : (r.after s m).roles = g'.roles := congrArg Rig.roles hoff
      rw [htrades, hroles]
      intro e he
      obtain he | he := List.mem_append.mp he
      · rw [hdeals.roles]
        exact hdeals.bound e he
      · have hcall : e.call ∈ g'.releases := hstops.subset (List.mem_map_of_mem he)
        exact ((h.sound.rebinds hrebinds).deals hdeals).bound_releases e.call hcall

/-- What listens when the action of a move is over listens after the move, unless the end of the run is to stop it. -/
lemma listening_worked (h : r.Rigged) (hstart : ¬ (m = .start ∧ r.state = .stopped))
    (hothers : ∀ shared, m ≠ .others shared) :
    ∃ g g' stops, r.rig.Rebinds g ∧ g.Deals (r.actionTrades s m) g' ∧ r.trades s m = r.actionTrades s m ++ stops ∧
      (∀ e ∈ stops, e.call.starts? = none) ∧
      ∀ pair ∈ g'.listening, pair ∈ (r.after s m).listening ∨ HasStop pair stops := by
  cases serviced_after (s := s) (fun _ => h.sound) hstart hothers with
  | goesOn hrebinds hdeals hstate htrades =>
    refine ⟨_, _, [], hrebinds, hdeals, by rw [List.append_nil, htrades], ?_, fun pair => .inl⟩
    exact fun e he => absurd he List.not_mem_nil
  | @ends g g' stops hrebinds hdeals hgoes hstopped hoff htrades hstops =>
    refine ⟨g, g', stops, hrebinds, hdeals, htrades, fun e he => ?_, fun pair hpair => .inr ?_⟩
    · exact Rig.starts?_of_mem_releases (hstops.subset (List.mem_map_of_mem he))
    · rw [← ((h.sound.rebinds hrebinds).deals hdeals).stops_releases] at hpair
      have hstopped := (hstops.filterMap BackendCall.stops?).symm.subset hpair
      rw [List.filterMap_map] at hstopped
      exact List.mem_filterMap.mp hstopped

/-- What listens before a move listens afterwards, unless a call of the move is to stop it. -/
lemma listening_after (h : r.Rigged) (hstart : ¬ (m = .start ∧ r.state = .stopped)) (hpair : pair ∈ r.listening) :
    pair ∈ (r.after s m).listening ∨ HasStop pair (r.trades s m) := by
  obtain ⟨shared, rfl⟩ | hown := m.others_or_own
  · exact .inl hpair
  · obtain ⟨g, g', stops, hrebinds, hdeals, htrades, -, hlast⟩ := listening_worked (s := s) h hstart hown
    rw [htrades]
    have hbefore : pair ∈ g.listening := hrebinds.listening ▸ hpair
    obtain hlistens | hstop := hdeals.listening hbefore
    · exact (hlast pair hlistens).imp_right (.append_left _)
    · exact .inr (hstop.append_right _)

/-- What a call of a move has started listens afterwards, unless a later call of the move is to stop it. -/
lemma started_after (h : r.Rigged) (hstart : ¬ (m = .start ∧ r.state = .stopped)) {before behind : List Exchange}
    (htrades : r.trades s m = before ++ e :: behind) (hstarted : e.hasStarted pair = true) :
    pair ∈ (r.after s m).listening ∨ HasStop pair behind := by
  have hstarts : e.call.starts? = some pair := beq_iff_eq.mp (Bool.and_eq_true_iff.mp hstarted).1
  have hown : ∀ shared, m ≠ .others shared := by
    rintro shared rfl
    exact absurd htrades.symm (by simp [trades])
  obtain ⟨g, g', stops, -, hdeals, hsplit, hnone, hlast⟩ := listening_worked (s := s) h hstart hown
  have hnot : e ∉ stops := fun he => by simp [hnone e he] at hstarts
  -- The call belongs to the action, since the end of a run starts nothing.
  obtain ⟨rest, haction, rfl⟩ : ∃ rest, r.actionTrades s m = before ++ e :: rest ∧ behind = rest ++ stops := by
    rw [hsplit] at htrades
    obtain ⟨more, -, hstops⟩ | ⟨rest, haction, hrest⟩ := List.append_eq_append_iff.mp htrades
    · exact absurd (hstops ▸ List.mem_append_right _ List.mem_cons_self) hnot
    · cases rest with
      | nil =>
        have hfirst : stops = e :: behind := hrest.symm
        exact absurd (hfirst ▸ List.mem_cons_self) hnot
      | cons e' rest =>
        obtain ⟨rfl, rfl⟩ := List.cons.inj hrest
        exact ⟨rest, haction, rfl⟩
  rw [haction] at hdeals
  obtain hlistens | hstop := hdeals.started hstarted
  · exact (hlast pair hlistens).imp_right (.append_left _)
  · exact .inr (hstop.append_right _)

/-- Whatever listens is stopped before the run is over, of the device that its role then has. -/
lemma stopped_of_listening (h : q.Rigged) {moves : List Move} (honce : q.StartsOnce s moves)
    (hpair : pair ∈ q.listening) (hover : (q.afterAll s moves).state = .stopped) :
    ∃ e ∈ along (trades s) s q moves, e.call.stops? = some pair ∧
      (¬ q.Happens s (Reassigns s pair) moves → q.rig.device? pair.1 = some e.call.target.device) := by
  induction moves generalizing q with
  | nil => simp [(h.silent hover).1] at hpair
  | cons m rest ih =>
    obtain ⟨hfirst, hlater⟩ := not_or.mp honce
    have hsame (hnever : ¬ q.Happens s (Reassigns s pair) (m :: rest)) :
        q.rig.device? pair.1 = (q.after s m).rig.device? pair.1 := by
      by_contra hchanged
      exact hnever (.inl ⟨hpair, Ne.symm hchanged⟩)
    obtain hlistens | ⟨e, he, hstop⟩ := listening_after (s := s) h hfirst hpair
    · obtain ⟨e, he, hstop, hdevice⟩ := ih (h.after hfirst) hlater hlistens hover
      refine ⟨e, List.mem_append_right _ he, hstop, fun hnever => ?_⟩
      rw [hsame hnever]
      exact hdevice fun hrest => hnever (.inr hrest)
    · refine ⟨e, List.mem_append_left _ he, hstop, fun hnever => ?_⟩
      rw [hsame hnever, ← BackendCall.role_of_stops? hstop]
      exact Rig.device?_of_bound (bound_trades h hfirst e he)

/-- Each call of a run is for a binding as the move that makes it leaves it.  Once the run has stopped, each call that
has started a listener is followed by one that is to stop this pair of role and sensor, of the same device unless the
role was given another one while the pair was listened to.

The backend may answer each call as it likes, and bindings may change as often as they do. -/
theorem listeners_stopped_as_bound (x : Ensemble) (s : Setup) (before : List Move)
    (hbegins : ((x.newRun s).afterAll s before).begins s .start = true) (moves : List Move)
    (honce : (((x.newRun s).afterAll s before).after s .start).StartsOnce s moves) :
    let first := ((x.newRun s).afterAll s before).after s .start
    ∀ earlier m later, moves = earlier ++ m :: later →
      let q := first.afterAll s earlier
      (∀ e ∈ q.trades s m, (q.after s m).roles.get? e.call.target.role = some e.call.target) ∧
      ((first.afterAll s moves).state = .stopped → ∀ earlierCalls e laterCalls pair,
        q.trades s m = earlierCalls ++ e :: laterCalls → e.hasStarted pair = true →
          ∃ e' ∈ laterCalls ++ along (trades s) s (q.after s m) later, e'.call.stops? = some pair ∧
            (¬ (q.after s m).Happens s (Reassigns s pair) later → e'.call.target.device = e.call.target.device)) := by
  rintro first earlier m later rfl q
  obtain ⟨hearlier, hnow, hlater⟩ : first.StartsOnce s earlier ∧ ¬ (m = .start ∧ q.state = .stopped) ∧
      (q.after s m).StartsOnce s later := by
    rw [StartsOnce, happens_append, Happens, not_or, not_or] at honce
    exact honce
  have hrigged : q.Rigged := (rigged_start hbegins).afterAll hearlier
  refine ⟨bound_trades hrigged hnow, fun hover earlierCalls e laterCalls pair htrades hstarted => ?_⟩
  rw [afterAll_append, afterAll_cons] at hover
  have hstarts : e.call.starts? = some pair := beq_iff_eq.mp (Bool.and_eq_true_iff.mp hstarted).1
  have hdevice : (q.after s m).rig.device? pair.1 = some e.call.target.device := by
    rw [← BackendCall.role_of_starts? hstarts]
    refine Rig.device?_of_bound (bound_trades hrigged hnow e ?_)
    rw [htrades]
    exact List.mem_append_right _ List.mem_cons_self
  obtain hlistens | ⟨e', he', hstop⟩ := started_after hrigged hnow htrades hstarted
  · obtain ⟨e', he', hstop, hsame⟩ := stopped_of_listening (hrigged.after hnow) hlater hlistens hover
    refine ⟨e', List.mem_append_right _ he', hstop, fun hnever => ?_⟩
    exact Option.some.inj ((hsame hnever).symm.trans hdevice)
  · -- Within one move a role keeps its device.
    refine ⟨e', List.mem_append_left _ he', hstop, fun _ => ?_⟩
    have hbound := bound_trades hrigged hnow e' (by
      rw [htrades]
      exact List.mem_append_right _ (List.mem_cons_of_mem _ he'))
    have hdevice' := Rig.device?_of_bound (g := (q.after s m).rig) hbound
    rw [BackendCall.role_of_stops? hstop] at hdevice'
    exact Option.some.inj (hdevice'.symm.trans hdevice)

/-- Two phones share a role.  The role is bound anew before a listener is started and not afterwards, so the end of the
run stops the phone that has been started. -/
theorem listeners_stopped_as_bound_boundBefore :
    let phone (model : String) : Device := ⟨.mobilePhone, [⟨"", "generic.acc", []⟩], [("model", .str model)]⟩
    let choose (model next : String) : Node := { Node.ofPrimitive .deviceSelect with
      next := [some next], arguments := .obj [("required_properties", .obj [("model", .str model)])] }
    let nodes : Dict Node :=
      [("on", { Node.ofPrimitive .deviceStartSensor with
          next := [some "w"], arguments := .obj [("sensors", .arr [.str "generic.acc"])] }),
        ("p", choose "a" "q"), ("q", choose "b" "on"), ("w", Node.ofPrimitive .waitNext)]
    let s : Setup :=
      { definition := { scenarioId := 1, content := { entry := "p", nodes } }, folder := ["run"]
        available := [phone "a", phone "b"], backend := { Backend.none with reply := fun _ _ => .ok true } }
    let x : Ensemble := { files := {} }
    let q := ((x.newRun s).after s .start).afterAll s [.step 0, .step 0]
    let model (e : Exchange) : Option String := (e.call.target.device.property? "model").bind Json.str?
    (q.trades s (.step 0)).map model = [some "b"] ∧
      ∃ e ∈ along (trades s) s (q.after s (.step 0)) [.stop none],
        e.call.stops? = some ("main", "generic.acc") ∧ model e = some "b" := by
  intro phone choose nodes s x q model
  have hmodel : (q.trades s (.step 0)).map model = [some "b"] := by decide +kernel
  obtain ⟨e, htrades⟩ := List.length_eq_one_iff.mp (show (q.trades s (.step 0)).length = 1 by decide +kernel)
  have hall : ∀ e ∈ q.trades s (.step 0), e.hasStarted ("main", "generic.acc") = true := by decide +kernel
  have honce : ((x.newRun s).after s .start).StartsOnce s [.step 0, .step 0, .step 0, .stop none] := by
    simp [StartsOnce, Happens]
  have hover : (((x.newRun s).after s .start).afterAll s [.step 0, .step 0, .step 0, .stop none]).state = .stopped := by
    decide +kernel
  obtain ⟨-, hstops⟩ := listeners_stopped_as_bound x s [] (by decide +kernel) _ honce [.step 0, .step 0] (.step 0)
    [.stop none] rfl
  obtain ⟨e', he', hstop, hsame⟩ := hstops hover [] e [] ("main", "generic.acc") htrades
    (hall e (by rw [htrades]; exact List.mem_singleton_self e))
  have hdevice : e'.call.target.device = e.call.target.device :=
    hsame (not_or.mpr ⟨not_reassigns_stop s _ _ none, not_false⟩)
  have hfirst : model e = some "b" := by
    rw [htrades] at hmodel
    exact (List.cons.inj hmodel).1
  rw [List.nil_append] at he'
  refine ⟨hmodel, e', he', hstop, ?_⟩
  rw [show model e' = (e'.call.target.device.property? "model").bind Json.str? from rfl, hdevice]
  exact hfirst

/-- Where the role of a listener is given another phone, the run ends without a call to stop the phone that has been
started. -/
theorem rebound_listener_leaks :
    let phone (model : String) : Device := ⟨.mobilePhone, [⟨"", "generic.acc", []⟩], [("model", .str model)]⟩
    let choose (model next : String) : Node := { Node.ofPrimitive .deviceSelect with
      next := [some next], arguments := .obj [("required_properties", .obj [("model", .str model)])] }
    let nodes : Dict Node :=
      [("on", { Node.ofPrimitive .deviceStartSensor with
          next := [some "w"], arguments := .obj [("sensors", .arr [.str "generic.acc"])] }),
        ("p", choose "a" "on"), ("q", choose "b" "v"), ("v", Node.ofPrimitive .waitNext),
        ("w", { Node.ofPrimitive .waitNext with next := [some "q"] })]
    let s : Setup :=
      { definition := { scenarioId := 42, content := { entry := "p", nodes } }, folder := ["run"]
        available := [phone "a", phone "b"], backend := { Backend.none with reply := fun _ _ => .ok true } }
    let x : Ensemble := { files := {} }
    let first := (x.newRun s).after s .start
    let moves : List Move :=
      [.step 0, .step 0, .step 0, .answer 1 (.value 0), .step 0, .step 0, .step 0, .stop none]
    ¬ ((first.afterAll s moves).state = .stopped → ∀ earlier e later pair,
      along (trades s) s first moves = earlier ++ e :: later → e.hasStarted pair = true →
        ∃ e' ∈ later, e'.call.stops? = some pair ∧ e'.call.target.device = e.call.target.device) := by
  intro phone choose nodes s x first moves hclaim
  let model (e : Exchange) : Option String := (e.call.target.device.property? "model").bind Json.str?
  have hover : (first.afterAll s moves).state = .stopped := by decide +kernel
  have hmodels : (along (trades s) s first moves).map model = [some "a", some "b"] := by decide +kernel
  have hstarted : ((along (trades s) s first moves).map (Exchange.hasStarted ("main", "generic.acc"))) =
      [true, false] := by decide +kernel
  obtain ⟨e, later, hes, hmodel, hlater⟩ := List.map_eq_cons_iff.mp hmodels
  rw [hes, List.map_cons] at hstarted
  obtain ⟨e', he', -, hdevice⟩ := hclaim hover [] e later ("main", "generic.acc") hes (List.cons.inj hstarted).1
  have hother : model e' = some "b" := by
    have hmem : model e' ∈ [some "b"] := hlater ▸ List.mem_map_of_mem he'
    exact List.mem_singleton.mp hmem
  have hsame : model e' = model e := congrArg (fun d : Device => (d.property? "model").bind Json.str?) hdevice
  rw [hother, hmodel] at hsame
  exact absurd hsame (by decide)

end Run

end FieldStudy
