import Mathlib.Data.Option.Basic
import Mathlib.Tactic.Common
import FieldStudy.Run.Sensors

/-!
# Sensors of runs that are alike

Which sensors are started and stopped depends on few fields of a run and on what the backend replies.  A relation between
runs that fixes these and lasts through each call (`Run.Steers`) lasts through every action on sensors.
-/

namespace FieldStudy.Run

/-- Related runs, the ones under `s` and the others under `s'`, drive their sensors alike.  `R` relates the runs and `Q`
the outcomes of their actions. -/
structure Steers (s s' : Setup) (R : Run → Run → Prop) (Q : Outcome → Outcome → Prop) : Prop where
  done : ∀ code, Q (.done code) (.done code)
  fails : ∀ e, Q (.fails e) (.fails e)
  config : s'.config = s.config
  roles : ∀ {r q : Run}, R r q → r.roles = q.roles
  listening : ∀ {r q : Run}, R r q → r.listening = q.listening
  recording : ∀ {r q : Run}, R r q → r.recording = q.recording
  canRecord : ∀ {r q : Run}, R r q → s.backend.canRecord r.calls = s'.backend.canRecord q.calls
  ask : ∀ {r q : Run}, R r q → ∀ call,
    (r.ask s call).1 = (q.ask s' call).1 ∧ R (r.ask s call).2 (q.ask s' call).2
  tell : ∀ {r q : Run}, R r q → ∀ recording, R (r.emit (.micRecording recording)) (q.emit (.micRecording recording))
  drive : ∀ {r q : Run}, R r q →
    ∀ (f : List (String × String) → List (String × String)) (g : List String → List String),
    R { r with listening := f r.listening, recording := g r.recording }
      { q with listening := f q.listening, recording := g q.recording }

namespace Steers

variable {s s' : Setup} {R : Run → Run → Prop} {Q : Outcome → Outcome → Prop} {r q : Run}

lemma forEachSensor {step step' : Run → RoleBinding → String → Option Outcome × Run}
    (hdone : Q (.done 0) (.done 0))
    (hstep : ∀ r q, R r q → ∀ b sensor, Option.Rel Q (step r b sensor).1 (step' q b sensor).1 ∧
      R (step r b sensor).2 (step' q b sensor).2)
    (pairs : List (RoleBinding × String)) (hR : R r q) :
    Q (Run.forEachSensor step pairs r).1 (Run.forEachSensor step' pairs q).1 ∧
      R (Run.forEachSensor step pairs r).2 (Run.forEachSensor step' pairs q).2 := by
  induction pairs generalizing r q with
  | nil => exact ⟨hdone, hR⟩
  | cons pair rest ih =>
    obtain ⟨b, sensor⟩ := pair
    obtain ⟨houtcome, hrun⟩ := hstep r q hR b sensor
    rw [Run.forEachSensor, Run.forEachSensor]
    generalize step r b sensor = x at houtcome hrun
    generalize step' q b sensor = y at houtcome hrun
    obtain ⟨outcome, r₁⟩ := x
    obtain ⟨outcome', q₁⟩ := y
    cases houtcome with
    | none => exact ih hrun
    | some ho => exact ⟨ho, hrun⟩

variable (h : Steers s s' R Q) (hR : R r q)
include h hR

lemma sensorTargets (a : SensorArguments) : r.sensorTargets a = q.sensorTargets a := by
  rw [Run.sensorTargets, Run.sensorTargets, targets, targets, h.roles hR]

/-! ## Single sensors -/

/-- A call is replied to in the same way in both runs. -/
lemma asked (call : BackendCall) :
    ∃ reply r₁ q₁, r.ask s call = (reply, r₁) ∧ q.ask s' call = (reply, q₁) ∧ R r₁ q₁ := by
  obtain ⟨hreply, hrun⟩ := h.ask hR call
  exact ⟨(r.ask s call).1, (r.ask s call).2, (q.ask s' call).2, rfl, Prod.ext hreply.symm rfl, hrun⟩

omit hR in
lemma reportInterval (config : Dict Json) : Run.reportInterval s' config = Run.reportInterval s config := by
  simp only [Run.reportInterval, h.config]

lemma startMotion (b : RoleBinding) (sensor : String) :
    Option.Rel Q (startMotion s r b sensor).1 (startMotion s' q b sensor).1 ∧
      R (startMotion s r b sensor).2 (startMotion s' q b sensor).2 := by
  rw [Run.startMotion, Run.startMotion, h.listening hR]
  split
  · exact ⟨.none, hR⟩
  · obtain ⟨reply, r₁, q₁, hr, hq, hrun⟩ := h.asked hR
      (.startListening b sensor (Run.reportInterval s (b.sensorConfig sensor)) (b.sensorConfig sensor))
    dsimp only
    rw [h.reportInterval, hr, hq]
    cases reply with
    | error e => exact ⟨.some (h.fails e), hrun⟩
    | ok done =>
      cases done with
      | false => exact ⟨.some (h.done 1), hrun⟩
      | true => exact ⟨.none, h.drive hrun ((b.role, sensor) :: ·) id⟩

lemma startMic (b : RoleBinding) :
    Option.Rel Q (startMic s r b).1 (startMic s' q b).1 ∧ R (startMic s r b).2 (startMic s' q b).2 := by
  rw [Run.startMic, Run.startMic, h.config, h.canRecord hR, h.recording hR]
  split
  · exact ⟨.some (h.done 1), hR⟩
  · split
    · exact ⟨.some (h.fails _), hR⟩
    · obtain ⟨reply, r₁, q₁, hr, hq, hrun⟩ := h.asked hR
        (.startRecording b (recordingFile b) s.config.micSampleRate s.config.micChannels)
      dsimp only
      rw [hr, hq]
      cases reply with
      | error e => exact ⟨.some (h.fails e), hrun⟩
      | ok done => exact ⟨.none, h.tell (h.drive hrun id (b.role :: ·)) true⟩

lemma stopMotion (b : RoleBinding) (sensor : String) :
    Option.Rel Q (stopMotion s r b sensor).1 (stopMotion s' q b sensor).1 ∧
      R (stopMotion s r b sensor).2 (stopMotion s' q b sensor).2 := by
  rw [Run.stopMotion, Run.stopMotion, h.listening hR]
  split
  · exact ⟨.none, hR⟩
  · obtain ⟨reply, r₁, q₁, hr, hq, hrun⟩ := h.asked hR (.stopListening b sensor)
    rw [hr, hq]
    cases reply with
    | error e => exact ⟨.some (h.fails e), hrun⟩
    | ok done =>
      cases done with
      | false => exact ⟨.some (h.done 1), hrun⟩
      | true => exact ⟨.none, h.drive hrun (·.filter (· != (b.role, sensor))) id⟩

lemma stopMic (b : RoleBinding) :
    Option.Rel Q (stopMic s r b).1 (stopMic s' q b).1 ∧ R (stopMic s r b).2 (stopMic s' q b).2 := by
  obtain ⟨reply, r₁, q₁, hr, hq, hrun⟩ := h.asked (h.drive hR id (·.filter (· != b.role))) (.stopRecording b)
  have hcontains : r.recording.contains b.role = q.recording.contains b.role := by rw [h.recording hR]
  rw [Run.stopMic, Run.stopMic, hcontains]
  split
  · exact ⟨.none, hR⟩
  · dsimp only [id] at hr hq ⊢
    rw [hr, hq]
    cases reply with
    | error e => exact ⟨.some (h.fails e), hrun⟩
    | ok done => exact ⟨.none, h.tell hrun false⟩

/-! ## All sensors -/

theorem startSensors (a : SensorArguments) :
    Q (r.startSensors s a).1 (q.startSensors s' a).1 ∧ R (r.startSensors s a).2 (q.startSensors s' a).2 := by
  rw [Run.startSensors, Run.startSensors, h.sensorTargets hR]
  refine forEachSensor (h.done 0) (fun r q hR b sensor => ?_) _ hR
  rw [startSensor, startSensor]
  split
  · exact h.startMotion hR b sensor
  · split
    · exact h.startMic hR b
    · exact ⟨.none, hR⟩

theorem stopSensors (a : SensorArguments) :
    Q (r.stopSensors s a).1 (q.stopSensors s' a).1 ∧ R (r.stopSensors s a).2 (q.stopSensors s' a).2 := by
  rw [Run.stopSensors, Run.stopSensors, h.sensorTargets hR]
  refine forEachSensor (h.done 0) (fun r q hR b sensor => ?_) _ hR
  rw [stopSensor, stopSensor]
  split
  · exact h.stopMotion hR b sensor
  · split
    · exact h.stopMic hR b
    · exact ⟨.none, hR⟩

end Steers

end FieldStudy.Run
