import Mathlib.Data.List.Nodup
import Mathlib.Tactic.Common
import FieldStudy.Proofs.Dict
import FieldStudy.Proofs.Run.Exchanges

/-!
# Rigs

The rig of a run is what it drives sensors by: the bindings, what listens and records on them, the calls of the backend
and what the host has been told of microphones.  Three things happen to it: bindings change (`Rig.Rebinds`), an action
deals with the backend call by call (`Rig.Deals`), and everything is switched off (`Rig.off`), in any order.  One call
can go in five ways (`Rig.Change`).
-/

namespace FieldStudy

/-- Whether a microphone has begun to record or has ceased to, if a notice tells so. -/
def Notice.mic? : Notice → Option Bool
  | .micRecording recording => some recording
  | _ => none

/-- The binding that a call is for. -/
def BackendCall.target : BackendCall → RoleBinding
  | .startListening b _ _ _ | .stopListening b _ | .startRecording b _ _ _ | .stopRecording b => b

/-- The backend fails to stop a recording. -/
def Exchange.isLost (e : Exchange) : Bool :=
  match e.call, e.reply with
  | .stopRecording _, .error _ => true
  | _, _ => false

/-- The part of a run that drives sensors. -/
structure Rig where
  roles : Dict RoleBinding
  listening : List (String × String)
  recording : List String
  calls : List BackendCall
  /-- What the host has been told of microphones. -/
  told : List Bool

namespace Rig

variable {g g' g'' : Rig} {e : Exchange} {es fs : List Exchange}

def ask (g : Rig) (call : BackendCall) : Rig := { g with calls := g.calls ++ [call] }

def tell (g : Rig) (recording : Bool) : Rig := { g with told := g.told ++ [recording] }

/-- The call is for a binding as it stands, and it neither starts what listens nor stops what does not. -/
structure InOrder (g : Rig) (call : BackendCall) : Prop where
  bound : g.roles.get? call.target.role = some call.target
  starts : ∀ pair, call.starts? = some pair → pair ∉ g.listening
  stops : ∀ pair, call.stops? = some pair → pair ∈ g.listening

namespace InOrder

lemma of_start {b : RoleBinding} {sensor : String} {interval : Nat} {config : Dict Json}
    (hb : g.roles.get? b.role = some b) (hsilent : (b.role, sensor) ∉ g.listening) :
    g.InOrder (.startListening b sensor interval config) :=
  ⟨hb, fun _ h => Option.some.inj h ▸ hsilent, fun _ h => absurd h.symm (Option.some_ne_none _)⟩

lemma of_stop {b : RoleBinding} {sensor : String} (hb : g.roles.get? b.role = some b)
    (hlistens : (b.role, sensor) ∈ g.listening) : g.InOrder (.stopListening b sensor) :=
  ⟨hb, fun _ h => absurd h.symm (Option.some_ne_none _), fun _ h => Option.some.inj h ▸ hlistens⟩

lemma of_neither {call : BackendCall} (hb : g.roles.get? call.target.role = some call.target)
    (hstarts : call.starts? = none) (hstops : call.stops? = none) : g.InOrder call :=
  ⟨hb, fun pair h => absurd (hstarts ▸ h).symm (Option.some_ne_none pair),
    fun pair h => absurd (hstops ▸ h).symm (Option.some_ne_none pair)⟩

end InOrder

/-- What a call that a sensor action makes comes to. -/
inductive Change (g : Rig) : Exchange → Rig → Prop
  /-- The backend refuses or fails, and everything stays as it is. -/
  | refused {e : Exchange} (hdone : e.isDone = false) (hkept : e.isLost = false) : Change g e (g.ask e.call)
  | listens {b : RoleBinding} {sensor : String} {interval : Nat} {config : Dict Json} :
      Change g ⟨.startListening b sensor interval config, .ok true⟩
        { g.ask (.startListening b sensor interval config) with listening := (b.role, sensor) :: g.listening }
  | unlistens {b : RoleBinding} {sensor : String} :
      Change g ⟨.stopListening b sensor, .ok true⟩
        { g.ask (.stopListening b sensor) with listening := g.listening.filter (· != (b.role, sensor)) }
  | records {b : RoleBinding} {file : String} {sampleRate channels : Nat} {done : Bool}
      (hsilent : b.role ∉ g.recording) :
      Change g ⟨.startRecording b file sampleRate channels, .ok done⟩
        { (g.ask (.startRecording b file sampleRate channels)).tell true with recording := b.role :: g.recording }
  /-- The microphone counts as stopped even if the backend fails, but only a success is told. -/
  | unrecords {b : RoleBinding} {reply : Except ScenarioError Bool} (hrecords : b.role ∈ g.recording) :
      Change g ⟨.stopRecording b, reply⟩
        { g.ask (.stopRecording b) with
          recording := g.recording.filter (· != b.role)
          told := g.told ++ if reply.isOk then [false] else [] }

/-- Calls one after another, each in order. -/
inductive Deals : Rig → List Exchange → Rig → Prop
  | refl (g : Rig) : Deals g [] g
  | cons {g g' g'' : Rig} {e : Exchange} {es : List Exchange}
      (horder : g.InOrder e.call) (h : Change g e g') (hrest : Deals g' es g'') : Deals g (e :: es) g''

lemma Change.roles (h : Change g e g') : g'.roles = g.roles := by cases h <;> rfl

lemma Change.calls (h : Change g e g') : g'.calls = g.calls ++ [e.call] := by cases h <;> rfl

namespace Deals

lemma single (horder : g.InOrder e.call) (h : Change g e g') : Deals g [e] g' := .cons horder h (.refl g')

lemma trans (h : Deals g es g') (h' : Deals g' fs g'') : Deals g (es ++ fs) g'' := by
  induction h with
  | refl g => exact h'
  | cons horder hchange _ ih => exact .cons horder hchange (ih h')

lemma eq_of_nil (h : Deals g [] g') : g' = g := by
  cases h
  rfl

lemma roles (h : Deals g es g') : g'.roles = g.roles := by
  induction h with
  | refl g => rfl
  | cons _ hchange _ ih => rw [ih, hchange.roles]

lemma calls (h : Deals g es g') : g'.calls = g.calls ++ es.map Exchange.call := by
  induction h with
  | refl g => rw [List.map_nil, List.append_nil]
  | cons _ hchange _ ih => rw [ih, hchange.calls, List.append_assoc, List.map_cons, List.singleton_append]

lemma bound (h : Deals g es g') : ∀ e ∈ es, g.roles.get? e.call.target.role = some e.call.target := by
  induction h with
  | refl g => exact fun e he => absurd he List.not_mem_nil
  | cons horder hchange _ ih =>
    rw [hchange.roles] at ih
    exact List.forall_mem_cons.mpr ⟨horder.bound, ih⟩

end Deals

/-! ## Bindings -/

/-- What anything else does to a rig. -/
inductive Rebinds (g : Rig) : Rig → Prop
  | keeps : Rebinds g g
  /-- Configurations change, and no device does. -/
  | adjusts (f : RoleBinding → RoleBinding) (hf : ∀ b, (f b).role = b.role ∧ (f b).device = b.device) :
      Rebinds g { g with roles := g.roles.mapValues f }
  | binds (role : String) (d : Device) : Rebinds g { g with roles := g.roles.insert role ⟨role, d, []⟩ }

namespace Rebinds

lemma of_eq (h : g' = g) : g.Rebinds g' := h ▸ .keeps

lemma calls (h : g.Rebinds g') : g'.calls = g.calls := by cases h <;> rfl

lemma told (h : g.Rebinds g') : g'.told = g.told := by cases h <;> rfl

lemma listening (h : g.Rebinds g') : g'.listening = g.listening := by cases h <;> rfl

lemma recording (h : g.Rebinds g') : g'.recording = g.recording := by cases h <;> rfl

lemma contains (h : g.Rebinds g') {role : String} (hrole : g.roles.contains role = true) :
    g'.roles.contains role = true := by
  cases h with
  | keeps => exact hrole
  | adjusts f hf => rwa [Dict.contains_mapValues]
  | binds role' d =>
    rw [Dict.contains, Dict.get?_insert]
    split
    · rfl
    · exact hrole

end Rebinds

/-! ## Switching off -/

/-- The calls that stop these listeners, with the devices that are bound to their roles. -/
def stopCalls (roles : Dict RoleBinding) (pairs : List (String × String)) : List BackendCall :=
  (pairs.filterMap fun (role, sensor) => (roles.get? role).map (·, sensor)).map fun (b, sensor) =>
    .stopListening b sensor

lemma filterMap_stopCalls {roles : Dict RoleBinding} (hnamed : ∀ role b, (role, b) ∈ roles → b.role = role)
    {pairs : List (String × String)} (hbound : ∀ pair ∈ pairs, roles.contains pair.1 = true) :
    (stopCalls roles pairs).filterMap BackendCall.stops? = pairs := by
  induction pairs with
  | nil => rfl
  | cons pair rest ih =>
    obtain ⟨role, sensor⟩ := pair
    obtain ⟨hfirst, hrest⟩ := List.forall_mem_cons.mp hbound
    obtain ⟨b, hb⟩ := Option.isSome_iff_exists.mp hfirst
    have hname : b.role = role := hnamed role b (Dict.mem_of_get? hb)
    have hcons : stopCalls roles ((role, sensor) :: rest) = .stopListening b sensor :: stopCalls roles rest := by
      simp only [stopCalls, List.filterMap_cons, hb, Option.map_some, List.map_cons]
    rw [hcons, List.filterMap_cons_some (by rw [BackendCall.stops?, hname]), ih hrest]

lemma starts?_of_mem_stopCalls {roles : Dict RoleBinding} {pairs : List (String × String)} {call : BackendCall}
    (h : call ∈ stopCalls roles pairs) : call.starts? = none := by
  obtain ⟨⟨b, sensor⟩, -, rfl⟩ := List.mem_map.mp h
  rfl

/-- The microphones that record on a role that is bound. -/
def mics (g : Rig) : List RoleBinding := g.recording.filterMap g.roles.get?

/-- The calls that switch everything off. -/
def releases (g : Rig) : List BackendCall := stopCalls g.roles g.listening ++ g.mics.map .stopRecording

/-- The rig when a run has ended with these calls. -/
def off (g : Rig) (stops : List BackendCall) : Rig :=
  { g with
    listening := [], recording := []
    calls := g.calls ++ stops
    told := g.told ++ List.replicate g.mics.length false }

/-! ## Sound rigs -/

/-- The bindings are a table by role, and nothing runs on a role that is not bound. -/
structure Sound (g : Rig) : Prop where
  sorted : g.roles.Sorted
  named : ∀ role b, (role, b) ∈ g.roles → b.role = role
  listening : ∀ pair ∈ g.listening, g.roles.contains pair.1 = true
  recording : ∀ role ∈ g.recording, g.roles.contains role = true
  nodup : g.recording.Nodup

lemma contains_of_bound {roles : Dict RoleBinding} {b : RoleBinding} (h : roles.get? b.role = some b) :
    roles.contains b.role = true := by
  rw [Dict.contains, h, Option.isSome_some]

/-- Neither calls nor notices matter to that. -/
lemma Sound.congr (h : g.Sound) (hroles : g'.roles = g.roles) (hlistening : g'.listening = g.listening)
    (hrecording : g'.recording = g.recording) : g'.Sound where
  sorted := hroles ▸ h.sorted
  named := hroles ▸ h.named
  listening := hroles ▸ hlistening ▸ h.listening
  recording := hroles ▸ hrecording ▸ h.recording
  nodup := hrecording ▸ h.nodup

lemma Sound.change (h : g.Sound) (horder : g.InOrder e.call) (hchange : Change g e g') : g'.Sound := by
  cases hchange with
  | refused => exact h.congr rfl rfl rfl
  | listens =>
    exact ⟨h.sorted, h.named, List.forall_mem_cons.mpr ⟨contains_of_bound horder.bound, h.listening⟩, h.recording,
      h.nodup⟩
  | unlistens =>
    exact ⟨h.sorted, h.named, fun pair hpair => h.listening pair (List.mem_of_mem_filter hpair), h.recording, h.nodup⟩
  | records hsilent =>
    exact ⟨h.sorted, h.named, h.listening, List.forall_mem_cons.mpr ⟨contains_of_bound horder.bound, h.recording⟩,
      List.nodup_cons.mpr ⟨hsilent, h.nodup⟩⟩
  | unrecords =>
    exact ⟨h.sorted, h.named, h.listening, fun role hrole => h.recording role (List.mem_of_mem_filter hrole),
      h.nodup.filter _⟩

lemma Sound.deals (h : g.Sound) (hdeals : Deals g es g') : g'.Sound := by
  induction hdeals with
  | refl g => exact h
  | cons horder hchange _ ih => exact ih (h.change horder hchange)

lemma Sound.rebinds (h : g.Sound) (hrebinds : g.Rebinds g') : g'.Sound where
  sorted := by
    cases hrebinds with
    | keeps => exact h.sorted
    | adjusts f hf => exact h.sorted.mapValues f
    | binds role d => exact h.sorted.insert role _
  named := by
    cases hrebinds with
    | keeps => exact h.named
    | adjusts f hf =>
      intro role b hb
      obtain ⟨⟨role', b'⟩, hb', heq⟩ := List.mem_map.mp hb
      obtain ⟨rfl, rfl⟩ := Prod.mk.inj heq
      exact (hf b').1.trans (h.named role' b' hb')
    | binds role' d =>
      intro role b hb
      obtain heq | hold := Dict.key_of_mem_insert hb
      · obtain ⟨rfl, rfl⟩ := Prod.mk.inj heq
        rfl
      · exact h.named role b hold
  listening pair hpair := hrebinds.contains (h.listening pair (hrebinds.listening ▸ hpair))
  recording role hrole := hrebinds.contains (h.recording role (hrebinds.recording ▸ hrole))
  nodup := hrebinds.recording ▸ h.nodup

lemma Sound.off (h : g.Sound) (stops : List BackendCall) : (g.off stops).Sound where
  sorted := h.sorted
  named := h.named
  listening _ hpair := absurd hpair List.not_mem_nil
  recording _ hrole := absurd hrole List.not_mem_nil
  nodup := List.nodup_nil

/-- Each microphone that records is switched off. -/
lemma Sound.length_mics (h : g.Sound) : g.mics.length = g.recording.length := by
  have hall : ∀ role ∈ g.recording, (g.roles.get? role).isSome = true := h.recording
  rw [mics]
  generalize g.recording = recording at hall
  induction recording with
  | nil => rfl
  | cons role rest ih =>
    obtain ⟨hfirst, hrest⟩ := List.forall_mem_cons.mp hall
    obtain ⟨b, hb⟩ := Option.isSome_iff_exists.mp hfirst
    rw [List.filterMap_cons_some hb, List.length_cons, List.length_cons, ih hrest]

/-- Each listener is switched off, once. -/
lemma Sound.stops_releases (h : g.Sound) : g.releases.filterMap BackendCall.stops? = g.listening := by
  have hmics : (g.mics.map BackendCall.stopRecording).filterMap BackendCall.stops? = [] := by
    rw [List.filterMap_map]
    exact List.filterMap_eq_nil_iff.mpr fun b _ => rfl
  rw [releases, List.filterMap_append, hmics, List.append_nil, filterMap_stopCalls h.named h.listening]

lemma starts?_of_mem_releases {call : BackendCall} (h : call ∈ g.releases) : call.starts? = none := by
  obtain hstops | hmics := List.mem_append.mp h
  · exact starts?_of_mem_stopCalls hstops
  · obtain ⟨b, -, rfl⟩ := List.mem_map.mp hmics
    rfl

/-- What is switched off is called by its binding. -/
lemma Sound.bound_releases (h : g.Sound) : ∀ call ∈ g.releases, g.roles.get? call.target.role = some call.target := by
  have hof {role : String} {b : RoleBinding} (hb : g.roles.get? role = some b) : g.roles.get? b.role = some b := by
    rw [h.named role b (Dict.mem_of_get? hb)]
    exact hb
  intro call hcall
  obtain hstops | hmics := List.mem_append.mp hcall
  · obtain ⟨⟨b, sensor⟩, hmem, rfl⟩ := List.mem_map.mp hstops
    obtain ⟨⟨role, sensor'⟩, -, heq⟩ := List.mem_filterMap.mp hmem
    obtain ⟨b', hb', hpair⟩ := Option.map_eq_some_iff.mp heq
    obtain ⟨rfl, -⟩ := Prod.mk.inj hpair
    exact hof hb'
  · obtain ⟨b, hb, rfl⟩ := List.mem_map.mp hmics
    obtain ⟨role, -, hrole⟩ := List.mem_filterMap.mp hb
    exact hof hrole

end Rig

end FieldStudy
