import Mathlib.Data.List.Nodup
import Mathlib.Tactic.Common
import FieldStudy.Proofs.Run.Servicing

/-!
# Notices of microphones

A run tells the host when a microphone begins to record and when it ceases to.  An action that is to stop a microphone
and at which the backend fails counts it as stopped and tells nothing of it, while the end of a run tells of each
microphone that is switched off, whatever the backend replies.  So the notices of a run that is over balance exactly
when the backend has not failed in this way (`Run.mic_notices_balance`).
-/

namespace FieldStudy

namespace Rig

variable {g g' g'' : Rig} {e : Exchange} {es : List Exchange} {lost lost' : Nat}

/-- What is told from one rig to the other accounts for the microphones that record, but for so many that were lost. -/
def Balances (lost : Nat) (g g' : Rig) : Prop :=
  ∃ told, g'.told = g.told ++ told ∧
    told.count true + g.recording.length = told.count false + lost + g'.recording.length

namespace Balances

/-- Nothing is told, and the same microphones record. -/
lemma silent (htold : g'.told = g.told) (hrecording : g'.recording = g.recording) : Balances 0 g g' := by
  refine ⟨[], by rw [htold, List.append_nil], ?_⟩
  rw [hrecording]
  rfl

lemma trans (h : Balances lost g g') (h' : Balances lost' g' g'') : Balances (lost + lost') g g'' := by
  obtain ⟨told, htold, hcount⟩ := h
  obtain ⟨told', htold', hcount'⟩ := h'
  refine ⟨told ++ told', by rw [htold', htold, List.append_assoc], ?_⟩
  rw [List.count_append, List.count_append]
  omega

end Balances

lemma Rebinds.balances (h : g.Rebinds g') : Balances 0 g g' := .silent h.told h.recording

lemma Change.balances (h : g.Change e g') (hsound : g.Sound) : Balances (if e.isLost then 1 else 0) g g' := by
  cases h with
  | refused hrefused hkept =>
    rw [hkept]
    exact .silent rfl rfl
  | listens => exact .silent rfl rfl
  | unlistens => exact .silent rfl rfl
  | records => exact ⟨[true], rfl, by simp [Exchange.isLost, Nat.add_comm]⟩
  | @unrecords b reply hrecords =>
    -- The role is among those that record, once.
    have hlength : (g.recording.filter (· != b.role)).length + 1 = g.recording.length := by
      rw [← hsound.nodup.erase_eq_filter, List.length_erase_add_one hrecords]
    cases reply with
    | error error => exact ⟨[], rfl, by simp [Exchange.isLost, ← hlength, Nat.add_comm]⟩
    | ok done => exact ⟨[false], rfl, by simp [Exchange.isLost, ← hlength, Nat.add_comm]⟩

lemma Deals.balances (h : g.Deals es g') (hsound : g.Sound) : Balances (es.countP Exchange.isLost) g g' := by
  induction h with
  | refl g => exact .silent rfl rfl
  | cons hbound hchange _ ih =>
    rw [List.countP_cons, Nat.add_comm]
    exact (hchange.balances hsound).trans (ih (hsound.change hbound hchange))

/-- Switching off tells of each microphone. -/
lemma Sound.balances_off (h : g.Sound) (stops : List BackendCall) : Balances 0 g (g.off stops) := by
  refine ⟨List.replicate g.mics.length false, rfl, ?_⟩
  rw [h.length_mics, show (g.off stops).recording = [] from rfl]
  simp [List.count_replicate]

end Rig

namespace Run

variable {r : Run} {s : Setup} {m : Move}

/-- What a run tells of microphones on the way. -/
def micsTold (s : Setup) (r : Run) (moves : List Move) : List Bool := (r.allSent s moves).filterMap Notice.mic?

/-- How many stops of a microphone the backend fails at on the way. -/
def micsLost (s : Setup) (r : Run) (moves : List Move) : Nat :=
  (along (actionTrades s) s r moves).countP Exchange.isLost

lemma balances_after (h : r.Rigged) (hstart : ¬ (m = .start ∧ r.state = .stopped))
    (hothers : ∀ shared, m ≠ .others shared) :
    r.rig.Balances ((r.actionTrades s m).countP Exchange.isLost) (r.after s m).rig := by
  cases serviced_after (s := s) (fun _ => h.sound) hstart hothers with
  | goesOn hrebinds hdeals hstate htrades =>
    have hbalances := hrebinds.balances.trans (hdeals.balances (h.sound.rebinds hrebinds))
    rwa [Nat.zero_add] at hbalances
  | @ends g g' stops hrebinds hdeals hgoes hstopped hoff htrades hstops =>
    have hsound := h.sound.rebinds hrebinds
    have hquits := (hsound.deals hdeals).balances_off (stops.map Exchange.call)
    have hbalances := (hrebinds.balances.trans (hdeals.balances hsound)).trans hquits
    rw [hoff]
    rwa [Nat.zero_add, Nat.add_zero] at hbalances

/-- The notices of one move. -/
lemma sent_balance (h : r.Rigged) (hsound : r.course.Sound) (hstart : ¬ (m = .start ∧ r.state = .stopped)) :
    ((r.sent s m).filterMap Notice.mic?).count true + r.recording.length =
      ((r.sent s m).filterMap Notice.mic?).count false + (r.actionTrades s m).countP Exchange.isLost +
        (r.after s m).recording.length := by
  obtain ⟨shared, rfl⟩ | hown := m.others_or_own
  · rw [actionTrades_of_taken? rfl, sent]
    simp [after, Ensemble.lend]
  · obtain ⟨told, htold, hcount⟩ := balances_after (s := s) h hstart hown
    have hsent : (r.sent s m).filterMap Notice.mic? = told := by
      have hnotices := congrArg (List.filterMap Notice.mic?) (notices_after (s := s) hsound hown)
      rw [List.filterMap_append] at hnotices
      exact List.append_cancel_left (hnotices.symm.trans htold)
    rw [hsent]
    exact hcount

/-- The notices of some moves. -/
lemma told_balance (h : r.Rigged) (hsound : r.course.Sound) {moves : List Move} (honce : r.StartsOnce s moves) :
    (micsTold s r moves).count true + r.recording.length =
      (micsTold s r moves).count false + micsLost s r moves + (r.afterAll s moves).recording.length := by
  induction moves generalizing r with
  | nil => rfl
  | cons m rest ih =>
    obtain ⟨hfirst, hlater⟩ := not_or.mp honce
    have hsent := sent_balance (s := s) h hsound hfirst
    have hrest := ih (h.after hfirst) (hsound.leads (course_after r s m)) hlater
    simp only [micsTold, micsLost, allSent, along, List.filterMap_append, List.count_append, List.countP_append,
      afterAll_cons] at hrest ⊢
    omega

/-- As often as the host has been told that a microphone records, it has been told that one has ceased to, except for
the microphones that still record and for those at which the backend has failed when an action was to stop them.  Once
the run has stopped no microphone records, so its notices balance exactly when the backend has never failed in this way.

The backend may answer each call as it likes, there may be any number of roles, and the run may end in any way. -/
theorem mic_notices_balance (x : Ensemble) (s : Setup) (before : List Move)
    (hbegins : ((x.newRun s).afterAll s before).begins s .start = true) (moves : List Move)
    (honce : (((x.newRun s).afterAll s before).after s .start).StartsOnce s moves) :
    let first := ((x.newRun s).afterAll s before).after s .start
    let r := first.afterAll s moves
    let told := micsTold s first moves
    told.count true = told.count false + micsLost s first moves + r.recording.length ∧
    (r.state = .stopped → r.recording = [] ∧
      (told.count true = told.count false ↔ micsLost s first moves = 0)) := by
  intro first r told
  have hrigged := rigged_start hbegins
  have hsound : first.course.Sound := (sound_afterAll x s before).leads (course_after _ s .start)
  have hrecording : first.recording = [] := modifies_start hbegins .recording (by decide)
  have hbalance : told.count true = told.count false + micsLost s first moves + r.recording.length := by
    have htold := told_balance hrigged hsound honce
    rwa [show (((x.newRun s).afterAll s before).after s .start).recording = [] from hrecording, List.length_nil,
      Nat.add_zero] at htold
  refine ⟨hbalance, fun hstopped => ?_⟩
  have hsilent : r.recording = [] := ((hrigged.afterAll honce).silent hstopped).2
  rw [hsilent, List.length_nil] at hbalance
  exact ⟨hsilent, by omega⟩

/-- Two microphones, one stopped by an action and the other by the end of the run, where the backend fails. -/
theorem mic_notices_balance_twoRoles :
    let phone : Device := ⟨.mobilePhone, [⟨"", "generic.mic", []⟩], []⟩
    let nodes : Dict Node :=
      [("off", { Node.ofPrimitive .deviceStopSensor with
          next := [some "w"]
          arguments := .obj [("devices", .arr [.str "main"]), ("sensors", .arr [.str "generic.mic"])] }),
        ("on", { Node.ofPrimitive .deviceStartSensor with
          next := [some "off"], arguments := .obj [("sensors", .arr [.str "generic.mic"])] }),
        ("p", { Node.ofPrimitive .deviceSelect with next := [some "on"] }), ("w", Node.ofPrimitive .waitNext)]
    let backend : Backend :=
      { Backend.none with
        canRecord := fun _ => true
        reply := fun calls _ => if calls.length = 3 then .error (.capability "busy") else .ok true }
    let s : Setup :=
      { definition := { scenarioId := 1, content := { entry := "p", nodes } }, folder := ["run"]
        available := [phone], preselected := [phone], backend }
    let x : Ensemble := { files := {} }
    let first := (x.newRun s).after s .start
    let moves : List Move := [.step 0, .step 0, .step 0, .step 0, .stop none]
    let r := first.afterAll s moves
    r.state = .stopped ∧ r.recording = [] ∧ (micsTold s first moves).count true = 2 ∧
      (micsTold s first moves).count false = 2 := by
  intro phone nodes backend s x first moves r
  have hstopped : r.state = .stopped := by decide +kernel
  have hbegun : (micsTold s first moves).count true = 2 := by decide +kernel
  have hlost : micsLost s first moves = 0 := by decide +kernel
  have honce : first.StartsOnce s moves := by simp [moves, StartsOnce, Happens]
  obtain ⟨-, hover⟩ := mic_notices_balance x s [] (by decide +kernel) moves honce
  obtain ⟨hsilent, hbalance⟩ := hover hstopped
  exact ⟨hstopped, hsilent, hbegun, (hbalance.mpr hlost).symm.trans hbegun⟩

/-- A microphone that an action is to stop and at which the backend fails: the host is told that it records and never
that it has ceased to. -/
theorem lost_microphone_never_told :
    let phone : Device := ⟨.mobilePhone, [⟨"", "generic.mic", []⟩], []⟩
    let sensors : Json := .obj [("sensors", .arr [.str "generic.mic"])]
    let nodes : Dict Node :=
      [("off", { Node.ofPrimitive .deviceStopSensor with arguments := sensors }),
        ("on", { Node.ofPrimitive .deviceStartSensor with next := [some "off"], arguments := sensors })]
    let backend : Backend :=
      { Backend.none with
        canRecord := fun _ => true
        reply := fun _ call =>
          match call with
          | .stopRecording _ => .error (.capability "busy")
          | _ => .ok true }
    let s : Setup :=
      { definition := { scenarioId := 42, content := { entry := "on", nodes } }, folder := ["run"]
        preselected := [phone], backend }
    let x : Ensemble := { files := {} }
    let first := (x.newRun s).after s .start
    let moves : List Move := [.step 0, .step 0]
    ¬ ((first.afterAll s moves).state = .stopped →
      (micsTold s first moves).count true = (micsTold s first moves).count false) := by
  intro phone sensors nodes backend s x first moves hclaim
  have hstopped : (first.afterAll s moves).state = .stopped := by decide +kernel
  have hbegun : (micsTold s first moves).count true = 1 := by decide +kernel
  have hceased : (micsTold s first moves).count false = 0 := by decide +kernel
  have hbalance := hclaim hstopped
  omega

end Run

end FieldStudy
