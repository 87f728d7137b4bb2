import Mathlib.Data.List.Nodup
import Mathlib.Tactic.Common
import FieldStudy.Proofs.Run.Servicing

/-!
# Listeners

The run keeps a set of the sensors that are listened to, and the backend hears of each of them.  Both agree after every
move (`Run.listeners_agree`): a pair of role and sensor is in the set exactly when it listens, the calls are in order,
and the end of a run stops what still listens, each pair once.

The backend may refuse any call or fail at it.
-/

namespace FieldStudy

namespace Rig

variable {g g' : Rig} {e : Exchange} {es stops history : List Exchange}

/-- After these exchanges the listeners of the rig are those that the backend has. -/
structure Keeps (g : Rig) (es : List Exchange) : Prop where
  nodup : g.listening.Nodup
  counts : ∀ pair, es.countP (Exchange.hasStarted pair) =
    es.countP (Exchange.hasStopped pair) + if pair ∈ g.listening then 1 else 0

namespace Keeps

lemma mem_listening_iff (h : g.Keeps es) (pair : String × String) : pair ∈ g.listening ↔ Listens es pair := by
  have hcounts := h.counts pair
  rw [Listens]
  split at hcounts <;> simp_all

lemma of_eq (h : g.Keeps es) (hlistening : g'.listening = g.listening) : g'.Keeps es where
  nodup := hlistening ▸ h.nodup
  counts := hlistening ▸ h.counts

/-- The call has had no effect on a listener. -/
lemma idle (h : g.Keeps es) (hlistening : g'.listening = g.listening)
    (hidle : ∀ pair, e.hasStarted pair = false ∧ e.hasStopped pair = false) : g'.Keeps (es ++ [e]) where
  nodup := hlistening ▸ h.nodup
  counts pair := by
    obtain ⟨hstarted, hstopped⟩ := hidle pair
    simpa [List.countP_append, hstarted, hstopped, hlistening] using h.counts pair

/-- A call in order takes the count on. -/
lemma change (h : g.Keeps es) (horder : g.InOrder e.call) (hchange : g.Change e g') : g'.Keeps (es ++ [e]) := by
  cases hchange with
  | refused hrefused => exact h.idle rfl fun pair => by simp [Exchange.hasStarted, Exchange.hasStopped, hrefused]
  | @listens b sensor interval config =>
    have hsilent := horder.starts _ rfl
    refine ⟨List.nodup_cons.mpr ⟨hsilent, h.nodup⟩, fun pair => ?_⟩
    have hcounts := h.counts pair
    by_cases heq : pair = (b.role, sensor)
    · subst heq
      simp_all [List.countP_append, Exchange.hasStarted, Exchange.hasStopped, Exchange.isDone, BackendCall.starts?,
        BackendCall.stops?]
    · simpa [List.countP_append, Exchange.hasStarted, Exchange.hasStopped, BackendCall.starts?, BackendCall.stops?, heq,
        Ne.symm heq] using hcounts
  | @unlistens b sensor =>
    have hlistens := horder.stops _ rfl
    refine ⟨h.nodup.filter _, fun pair => ?_⟩
    have hcounts := h.counts pair
    by_cases heq : pair = (b.role, sensor)
    · subst heq
      simp_all [List.countP_append, Exchange.hasStarted, Exchange.hasStopped, Exchange.isDone, BackendCall.starts?,
        BackendCall.stops?]
    · simpa [List.countP_append, Exchange.hasStarted, Exchange.hasStopped, BackendCall.starts?, BackendCall.stops?, heq,
        Ne.symm heq] using hcounts
  | records => exact h.idle rfl fun pair => ⟨rfl, rfl⟩
  | unrecords => exact h.idle rfl fun pair => ⟨rfl, rfl⟩

lemma deals (h : g.Keeps history) (hdeals : g.Deals es g') : Orderly history es ∧ g'.Keeps (history ++ es) := by
  induction hdeals generalizing history with
  | refl g => exact ⟨orderly_nil history, by rwa [List.append_nil]⟩
  | @cons g g' g'' e es horder hchange _ ih =>
    obtain ⟨horderly, hkeeps⟩ := ih (h.change horder hchange)
    rw [List.append_assoc, List.singleton_append] at hkeeps
    refine ⟨orderly_cons.mpr ⟨⟨fun pair hstarts => ?_, fun pair hstops => ?_⟩, horderly⟩, hkeeps⟩
    · exact (h.mem_listening_iff pair).not.mp (horder.starts pair hstarts)
    · exact (h.mem_listening_iff pair).mp (horder.stops pair hstops)

/-- What is switched off is all that listens. -/
lemma stopsAll (h : g.Keeps history) (hsound : g.Sound) (hstops : (stops.map Exchange.call).Perm g.releases) :
    StopsAll history stops := by
  have hall : (stops.filterMap (·.call.stops?)).Perm g.listening := by
    have hcalls := hstops.filterMap BackendCall.stops?
    rwa [List.filterMap_map, hsound.stops_releases] at hcalls
  refine ⟨List.filterMap_eq_nil_iff.mpr fun e he => ?_, hall.nodup_iff.mpr h.nodup, fun pair => ?_⟩
  · exact starts?_of_mem_releases (hstops.subset (List.mem_map_of_mem he))
  · exact hall.mem_iff.trans (h.mem_listening_iff pair)

end Keeps

end Rig

namespace Run

variable {r : Run} {s : Setup} {es : List Exchange}

/-- The run keeps its listeners as long as it goes on, and has none when it has stopped. -/
structure Tended (r : Run) (es : List Exchange) : Prop where
  rigged : r.Rigged
  going : r.state ≠ .stopped → r.rig.Keeps es

lemma Tended.ended (h : r.Tended es) (hstopped : r.state = .stopped) : r.listening = [] :=
  (h.rigged.silent hstopped).1

lemma Tended.after (h : r.Tended es) {m : Move} (hstart : ¬ (m = .start ∧ r.state = .stopped)) :
    (r.after s m).Tended (es ++ r.trades s m) ∧ ∃ stops, r.trades s m = r.actionTrades s m ++ stops ∧
      Orderly es (r.actionTrades s m) ∧
      if r.state ≠ .stopped ∧ (r.after s m).state = .stopped then StopsAll (es ++ r.actionTrades s m) stops
      else stops = [] := by
  have hrigged := h.rigged.after (s := s) hstart
  obtain ⟨shared, rfl⟩ | hown := m.others_or_own
  · have hstate : (r.after s (.others shared)).state = r.state := rfl
    refine ⟨⟨hrigged, fun hgoes => ?_⟩, [], rfl, orderly_nil es, ?_⟩
    · rw [trades, List.append_nil]
      exact (h.going hgoes).of_eq rfl
    · rw [if_neg fun hends => hends.1 (hstate ▸ hends.2)]
  · cases serviced_after (s := s) (fun _ => h.rigged.sound) hstart hown with
    | goesOn hrebinds hdeals hstate htrades =>
      rw [htrades]
      refine ⟨⟨hrigged, fun hgoes => ?_⟩, [], (List.append_nil _).symm, ?_, ?_⟩
      · have hbefore := h.going fun hstopped => hgoes (hstate.mpr hstopped)
        exact ((hbefore.of_eq hrebinds.listening).deals hdeals).2
      · by_cases hstopped : r.state = .stopped
        · rw [actionTrades_of_stopped hstopped]
          exact orderly_nil es
        · exact (((h.going hstopped).of_eq hrebinds.listening).deals hdeals).1
      · rw [if_neg fun hends => hends.1 (hstate.mp hends.2)]
    | @ends g g' stops hrebinds hdeals hgoes hstopped hoff htrades hstops =>
      obtain ⟨horderly, hkeeps⟩ := ((h.going hgoes).of_eq hrebinds.listening).deals hdeals
      refine ⟨⟨hrigged, fun hgoes' => absurd hstopped hgoes'⟩, stops, htrades, horderly, ?_⟩
      rw [if_pos ⟨hgoes, hstopped⟩]
      exact hkeeps.stopsAll ((h.rigged.sound.rebinds hrebinds).deals hdeals) hstops

lemma Tended.afterAll (h : r.Tended es) {moves : List Move} (honce : r.StartsOnce s moves) :
    (r.afterAll s moves).Tended (es ++ along (trades s) s r moves) := by
  induction moves generalizing r es with
  | nil => rwa [along, List.append_nil]
  | cons m rest ih =>
    obtain ⟨hfirst, hlater⟩ := not_or.mp honce
    have hnext := ih (h.after hfirst).1 hlater
    rwa [List.append_assoc] at hnext

/-- A run begins with no listeners. -/
lemma tended_start (h : r.begins s .start = true) : (r.after s .start).Tended [] := by
  have hlistening : (r.after s .start).rig.listening = [] := modifies_start h .listening (by decide)
  exact ⟨rigged_start h, fun _ => ⟨by simp [hlistening], by simp [hlistening]⟩⟩

/-- As long as a run goes on, it listens to a sensor of a role exactly when one more successful call has started than
stopped this pair; once it has stopped, it listens to nothing.  In each further move, the calls of a sensor action start
only what does not listen and stop only what does, wherever the action ends.  The move that ends the run stops all that
still listens, each pair once, and no other move has the backend do more than its action asks.

The backend may answer each call as it likes, and what it answers may depend on all calls made before. -/
theorem listeners_agree (x : Ensemble) (s : Setup) (before : List Move)
    (hbegins : ((x.newRun s).afterAll s before).begins s .start = true) (moves : List Move)
    (honce : (((x.newRun s).afterAll s before).after s .start).StartsOnce s moves) :
    let first := ((x.newRun s).afterAll s before).after s .start
    let r := first.afterAll s moves
    let es := along (trades s) s first moves
    (r.state ≠ .stopped → ∀ pair, pair ∈ r.listening ↔ Listens es pair) ∧
    (r.state = .stopped → r.listening = []) ∧
    ∀ m, ¬ (m = .start ∧ r.state = .stopped) → ∃ stops, r.trades s m = r.actionTrades s m ++ stops ∧
      Orderly es (r.actionTrades s m) ∧
      if r.state ≠ .stopped ∧ (r.after s m).state = .stopped then StopsAll (es ++ r.actionTrades s m) stops
      else stops = [] := by
  intro first r es
  have htended : r.Tended es := (tended_start hbegins).afterAll honce
  refine ⟨fun hgoes => (htended.going hgoes).mem_listening_iff, htended.ended, fun m hstart => ?_⟩
  exact (htended.after hstart).2

/-- A backend that starts one listener, refuses the next one and fails to stop the first. -/
theorem listeners_agree_refused :
    let sensors : Json := .obj [("sensors", .arr [.str "generic.gyr", .str "generic.acc"])]
    let nodes : Dict Node :=
      [("off", { Node.ofPrimitive .deviceStopSensor with arguments := sensors }),
        ("on", { Node.ofPrimitive .deviceStartSensor with next := [none, some "off"], arguments := sensors })]
    let backend : Backend := { Backend.none with
      reply := fun calls _ => [.ok true, .ok false, .error (.capability "busy")].getD calls.length (.ok true) }
    let s : Setup :=
      { definition := { scenarioId := 1, content := { entry := "on", nodes } }, folder := ["run"]
        preselected := [⟨.mobilePhone, [], []⟩], backend }
    let x : Ensemble := { files := {} }
    let first := (x.newRun s).after s .start
    let r := first.afterAll s [.step 0]
    let es := along (trades s) s first [.step 0]
    es.length = 2 ∧ r.listening = [("mobile_phone", "generic.gyr")] ∧ Listens es ("mobile_phone", "generic.gyr") ∧
      ¬ Listens es ("mobile_phone", "generic.acc") ∧ (r.after s (.step 0)).state = .stopped ∧
      (r.after s (.step 0)).listening = [] ∧ ∃ stops, r.trades s (.step 0) = r.actionTrades s (.step 0) ++ stops ∧
        (r.actionTrades s (.step 0)).length = 1 ∧ Orderly es (r.actionTrades s (.step 0)) ∧ stops.length = 1 ∧
        StopsAll (es ++ r.actionTrades s (.step 0)) stops := by
  intro sensors nodes backend s x first r es
  have hlength : es.length = 2 := by decide +kernel
  have hlistening : r.listening = [("mobile_phone", "generic.gyr")] := by decide +kernel
  have hgoes : r.state ≠ .stopped := by decide +kernel
  have hends : (r.after s (.step 0)).state = .stopped := by decide +kernel
  have hnone : (r.after s (.step 0)).listening = [] := by decide +kernel
  have hasked : (r.actionTrades s (.step 0)).length = 1 := by decide +kernel
  have hboth : (r.trades s (.step 0)).length = 2 := by decide +kernel
  obtain ⟨hagree, -, hmoves⟩ : (r.state ≠ .stopped → ∀ pair, pair ∈ r.listening ↔ Listens es pair) ∧ _ ∧ _ :=
    listeners_agree x s [] (by decide +kernel) [.step 0] (by simp [StartsOnce, Happens])
  obtain ⟨stops, hsplit, hcalls⟩ : ∃ stops, r.trades s (.step 0) = r.actionTrades s (.step 0) ++ stops ∧
      Orderly es (r.actionTrades s (.step 0)) ∧
      if r.state ≠ .stopped ∧ (r.after s (.step 0)).state = .stopped then
        StopsAll (es ++ r.actionTrades s (.step 0)) stops
      else stops = [] := hmoves (.step 0) (by simp)
  have hpair := hagree hgoes
  rw [hlistening] at hpair
  have hrest : stops.length = 1 := by
    have hcount := congrArg List.length hsplit
    rw [hboth, List.length_append, hasked] at hcount
    omega
  rw [if_pos ⟨hgoes, hends⟩] at hcalls
  exact ⟨hlength, hlistening, (hpair _).mp (by decide), (hpair _).not.mp (by decide), hends, hnone, stops, hsplit,
    hasked, hcalls.1, hrest, hcalls.2⟩

end Run

end FieldStudy
