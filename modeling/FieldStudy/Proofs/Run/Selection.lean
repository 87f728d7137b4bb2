import Mathlib.Data.List.Basic
import Mathlib.Tactic.Common
import Mathlib.Tactic.MkIffOfInductiveProp
import FieldStudy.Proofs.Run.Answers
import FieldStudy.Proofs.Run.Stored

/-!
# Choosing devices

A selection asks the host only if several devices suit.  Whatever it comes to, it binds one of the devices that suit to
its role and notes the description of that device (`Run.Binds`), or it changes nothing: the work of its steps is
confined to the fields that taking up and leaving off an action always touch (`Run.idleFields`).  The answer may come
after any moves of other branches, and it counts among the devices that the host was shown, in their order
(`Run.select_binds_or_leaves`).
-/

namespace FieldStudy

/-! ## Filters -/

namespace DeviceFilter

/-- The device is and has what the filter demands; a part that is absent demands nothing. -/
@[mk_iff]
structure Suits (f : DeviceFilter) (d : Device) : Prop where
  type : ∀ t ∈ f.type, d.type = t
  sensors : ∀ types ∈ f.sensors, ∀ type ∈ types, ∃ sensor ∈ d.sensors, sensor.type = type
  properties : ∀ demands ∈ f.properties, ∀ p ∈ demands, propertyMatches (d.property? p.1) p.2 = true
  /-- Of each sensor those properties are demanded that are named for its type. -/
  sensorProperties : ∀ demands ∈ f.sensorProperties, ∀ sensor ∈ d.sensors, ∀ wanted,
    demands.get? sensor.type = some (.obj wanted) →
      ∀ p ∈ wanted, propertyMatches (sensor.property? p.1) p.2 = true

lemma acceptsSensor_iff {demands : Dict Json} {sensor : SensorInfo} : acceptsSensor demands sensor = true ↔
    ∀ wanted, demands.get? sensor.type = some (.obj wanted) →
      ∀ p ∈ wanted, propertyMatches (sensor.property? p.1) p.2 = true := by
  rw [acceptsSensor]
  cases hget : demands.get? sensor.type with
  | none => simp
  | some v => cases v <;> simp [Json.members?]

lemma accepts_iff {f : DeviceFilter} {d : Device} : f.accepts d = true ↔ f.Suits d := by
  rw [accepts, Bool.and_eq_true, Bool.and_eq_true, Bool.and_eq_true, suits_iff, and_assoc, and_assoc]
  refine and_congr ?type (and_congr ?sensors (and_congr ?properties ?sensorProperties))
  all_goals rw [Option.all_eq_true]
  case type => exact forall₂_congr fun t _ => by rw [beq_iff_eq, eq_comm]
  case sensors => exact forall₂_congr fun types _ => by simp [Device.hasSensor]
  case properties => exact forall₂_congr fun demands _ => List.all_eq_true
  case sensorProperties =>
    refine forall₂_congr fun demands _ => List.all_eq_true.trans ?_
    exact forall₂_congr fun sensor _ => acceptsSensor_iff

instance (f : DeviceFilter) (d : Device) : Decidable (f.Suits d) := decidable_of_iff _ accepts_iff

/-- The candidates are the devices that suit, in their order. -/
lemma select_eq (f : DeviceFilter) (devices : List Device) :
    f.select devices = devices.filter fun d => f.Suits d := by
  refine List.filter_congr fun d _ => ?_
  rw [Bool.eq_iff_iff, accepts_iff, decide_eq_true_iff]

end DeviceFilter

/-- The metadata with the description of the device of a role. -/
def Metadata.describing (m : Metadata) (role : String) (info : Json) : Metadata :=
  { m with deviceInfo := m.deviceInfo.insert role info }

namespace Run

variable {r r₁ r' q : Run} {s : Setup} {i : Nat} {role : String} {d : Device} {info : Json}

/-! ## What a step comes to -/

/-- The fields that taking up an action and leaving off a wait for the host touch. -/
def idleFields : List RunField := [.point, .prompts, .agenda]

/-- The next step of the task ends its action with a code: the work on the action leads to a run, with which the branch
goes on. -/
def EndsWith (s : Setup) (r : Run) (i : Nat) (code : Int) (q : Run) : Prop :=
  r.code? s i = some code ∧ ∃ t p node, r.tasks[i]? = some t ∧ s.definition.node? p.node = some node ∧
    r.after s (.step i) = q.follow s i t p node (.done code)

/-- The device is bound to the role, with an empty configuration, and its description is noted under the role.  This is
in the file as well, in a store whose numbers are in range.  All else is as it was. -/
structure Binds (s : Setup) (r : Run) (role : String) (d : Device) (info : Json) (q : Run) : Prop where
  bound : q.roles.get? role = some ⟨role, d, []⟩
  others : ∀ other, other ≠ role → q.roles.get? other = r.roles.get? other
  metadata : q.metadata = r.metadata.describing role info
  described : q.metadata.deviceInfo.get? role = some info
  stored : r.files.Numbered →
    q.files.read? (s.folder ++ [Metadata.file]) = some (Utf8.encode q.metadata.text.toList)
  rest : Modifies (idleFields ++ [.roles, .metadata, .files]) r q

lemma modifies_point (r : Run) (p : Option Point) : Modifies idleFields r { r with point := p } := by
  intro f hf
  cases f <;> first | rfl | simp [idleFields] at hf

lemma Binds.of_modifies (h : r₁.Binds s role d info q) (hr : Modifies idleFields r r₁) :
    r.Binds s role d info q := by
  have hroles : r₁.roles = r.roles := hr .roles (by decide)
  have hmetadata : r₁.metadata = r.metadata := hr .metadata (by decide)
  have hfiles : r₁.files = r.files := hr .files (by decide)
  exact ⟨h.bound, hroles ▸ h.others, hmetadata ▸ h.metadata, h.described, hfiles ▸ h.stored,
    (hr.mono fun _ => List.mem_append_left _).trans h.rest⟩

/-- The run with a device bound to a role, before this is saved. -/
def withDevice (r : Run) (role : String) (d : Device) (info : Json) : Run :=
  { r with roles := r.roles.insert role ⟨role, d, []⟩, metadata := r.metadata.describing role info }

lemma savedWith_of_save {files : FileStore} (h : r.metadata.save s.folder r.files = .ok files) (code : Int) :
    r.savedWith s code = (.done code, { r with files }) := by
  rw [savedWith, saveMetadata, h]

/-- A device is bound if the backend describes it and the metadata can be saved. -/
lemma binds_bind {files : FileStore} (hinfo : s.backend.deviceInfo r.calls d = .ok info)
    (hsave : (r.metadata.describing role info).save s.folder r.files = .ok files) :
    ∃ q, r.bind s d role = (.done 0, q) ∧ r.Binds s role d info q := by
  refine ⟨{ r.withDevice role d info with files }, ?_, ?_⟩
  · rw [bind, hinfo]
    exact savedWith_of_save (r := r.withDevice role d info) hsave 0
  · refine ⟨Dict.get?_insert_self .., fun other hne => Dict.get?_insert_of_ne _ _ hne.symm, rfl,
      Dict.get?_insert_self .., fun hnumbered => Metadata.read?_of_save hnumbered hsave, ?_⟩
    intro f hf
    cases f <;> first | rfl | simp [idleFields] at hf

/-! ## The three cases of a selection -/

variable {a : SelectArguments} {P : Point → Run → Prop}

lemma select_of_nil (h : a.filter.select s.available = []) : r.select s a = (.done 1, r) := by
  rw [select, h]

lemma select_of_singleton (h : a.filter.select s.available = [d]) :
    r.select s a = r.bind s d (a.role.getD defaultRole) := by
  rw [select, h]

/-- What the host is asked to choose from: the types of the candidates. -/
def choiceOf (s : Setup) (a : SelectArguments) (id : Nat) : Notice :=
  .choice id ⟨none, a.prompt.map s.format, (a.filter.select s.available).map (·.type.text)⟩

lemma select_of_several (h : 2 ≤ (a.filter.select s.available).length) : r.select s a =
    r.promptThen (choiceOf s a) (.bind (a.filter.select s.available) (a.role.getD defaultRole)) := by
  cases hselect : a.filter.select s.available with
  | nil => simp [hselect] at h
  | cons d others =>
    cases others with
    | nil => simp [hselect] at h
    | cons d' others =>
      have hchoice : choiceOf s a =
          fun id => .choice id ⟨none, a.prompt.map s.format, (d :: d' :: others).map (·.type.text)⟩ :=
        funext fun id => by rw [choiceOf, hselect]
      rw [select, hselect, hchoice]
      rfl

/-! ## Asking the host -/

/-- The step that asks the host, and how it leaves the run. -/
lemma asks_of_several (htaken : r.taken? s (.step i) = some (.select a))
    (h : 2 ≤ (a.filter.select s.available).length) :
    r.asks? s (.step i) = some (i, r.prompts.issued + 1) ∧
    (∃ t p, (r.after s (.step i)).tasks[i]? = some t ∧ t.status = .waiting p (.prompt (r.prompts.issued + 1))
      (.bind (a.filter.select s.available) (a.role.getD defaultRole))) ∧
    (r.after s (.step i)).notices = r.notices ++ [choiceOf s a (r.prompts.issued + 1)] ∧
    Modifies [.point, .prompts, .notices, .tasks] r (r.after s (.step i)) := by
  obtain ⟨t, p, node, ht, hstatus, hnode, hturn, hafter⟩ := after_of_taken? htaken
  rw [show ({ r with point := some p } : Run).execute s ⟨t.branch, p.node, node, t.token⟩ (.select a) =
    ({ r with point := some p } : Run).promptThen (choiceOf s a) _ from select_of_several h] at hturn hafter
  refine ⟨asks?_of_turn? hturn, ⟨_, p, task_step ht hturn, rfl⟩, ?_, ?_⟩
  · rw [hafter]
    rfl
  · rw [hafter]
    intro f hf
    cases f <;> first | rfl | simp at hf

/-- An index that is out of range leaves everything as it is. -/
lemma bindChosen_of_not {candidates : List Device} {index : Int} (h : index < 0 ∨ candidates.length ≤ index) :
    r.bindChosen s candidates role index = (.done 1, r) := by
  have hnone : (if index < 0 then none else candidates[index.toNat]?) = none := by
    split
    · rfl
    · exact List.getElem?_eq_none (by omega)
  rw [bindChosen, hnone]

lemma bindChosen_of_getElem? {candidates : List Device} {k : Nat} (h : candidates[k]? = some d) :
    r.bindChosen s candidates role k = r.bind s d role := by
  rw [bindChosen, if_neg (by omega), Int.toNat_natCast, h]

/-! ## Ends of selections -/

lemma modifies_awake_prompt (r : Run) (i id : Nat) : Modifies idleFields r (r.awake i (.prompt id)) :=
  (r.modifies_awake i (.prompt id)).mono (by decide)

lemma endsWith_of_turn? {t : Task} {p : Point} {node : Node} {code : Int} (ht : r.tasks[i]? = some t)
    (hnode : s.definition.node? p.node = some node) (hturn : r.turn? s i = some (p, .acted node (.done code)))
    (hafter : r.after s (.step i) = q.follow s i t p node (.done code)) : r.EndsWith s i code q :=
  ⟨code?_of_turn? hturn, t, p, node, ht, hnode, hafter⟩

/-- A selection that does not ask the host is over in one step. -/
lemma endsWith_of_select {code : Int} (htaken : r.taken? s (.step i) = some (.select a))
    (hselect : ∀ p, ∃ q, ({ r with point := some p } : Run).select s a = (.done code, q) ∧ P p q) :
    ∃ p q, r.EndsWith s i code q ∧ P p q := by
  obtain ⟨t, p, node, ht, -, hnode, hturn, hafter⟩ := after_of_taken? htaken
  obtain ⟨q, hq, hP⟩ := hselect p
  rw [show ({ r with point := some p } : Run).execute s ⟨t.branch, p.node, node, t.token⟩ (.select a) = _ from hq]
    at hturn hafter
  exact ⟨p, q, endsWith_of_turn? ht hnode hturn hafter, hP⟩

/-- Without candidates nothing changes. -/
lemma select_leaves (htaken : r.taken? s (.step i) = some (.select a)) (h : a.filter.select s.available = []) :
    ∃ q, r.EndsWith s i 1 q ∧ Modifies idleFields r q := by
  obtain ⟨p, q, hends, rfl⟩ := endsWith_of_select (P := fun p q => q = { r with point := some p }) htaken fun p =>
    ⟨_, select_of_nil h, rfl⟩
  exact ⟨_, hends, r.modifies_point _⟩

/-- The only candidate is bound. -/
lemma select_binds {files : FileStore} (htaken : r.taken? s (.step i) = some (.select a))
    (h : a.filter.select s.available = [d]) (hinfo : s.backend.deviceInfo r.calls d = .ok info)
    (hsave : (r.metadata.describing (a.role.getD defaultRole) info).save s.folder r.files = .ok files) :
    ∃ q, r.EndsWith s i 0 q ∧ r.Binds s (a.role.getD defaultRole) d info q := by
  obtain ⟨p, q, hends, hbinds⟩ := endsWith_of_select
    (P := fun p q => ({ r with point := some p } : Run).Binds s (a.role.getD defaultRole) d info q) htaken fun p => by
      rw [select_of_singleton h]
      exact binds_bind (r := { r with point := some p }) hinfo hsave
  exact ⟨q, hends, hbinds.of_modifies (r.modifies_point _)⟩

section Answered

variable {t : Task} {p : Point} {node : Node} {id : Nat} {candidates : List Device} {index : Int}

/-- The answer is out of range: nothing changes. -/
lemma choice_leaves (ht : r.tasks[i]? = some t)
    (hstatus : t.status = .waiting p (.prompt id) (.bind candidates role))
    (hnode : s.definition.node? p.node = some node)
    (hresult : r.waitResult? t.token (.prompt id) = some (.ok index)) (h : index < 0 ∨ candidates.length ≤ index) :
    ∃ q, r.EndsWith s i 1 q ∧ Modifies idleFields r q := by
  obtain ⟨hturn, hafter⟩ := after_of_waitResult? ht hstatus hnode hresult
  rw [show (r.awake i (.prompt id)).proceed s (.ok index) (.bind candidates role) = _ from bindChosen_of_not h]
    at hturn hafter
  exact ⟨_, endsWith_of_turn? ht hnode hturn hafter, r.modifies_awake_prompt i id⟩

/-- The candidate of the index is bound. -/
lemma choice_binds {k : Nat} {files : FileStore} (ht : r.tasks[i]? = some t)
    (hstatus : t.status = .waiting p (.prompt id) (.bind candidates role))
    (hnode : s.definition.node? p.node = some node)
    (hresult : r.waitResult? t.token (.prompt id) = some (.ok k)) (hd : candidates[k]? = some d)
    (hinfo : s.backend.deviceInfo r.calls d = .ok info)
    (hsave : (r.metadata.describing role info).save s.folder r.files = .ok files) :
    ∃ q, r.EndsWith s i 0 q ∧ r.Binds s role d info q := by
  have hidle := r.modifies_awake_prompt i id
  have hcalls : (r.awake i (.prompt id)).calls = r.calls := hidle .calls (by decide)
  have hmetadata : (r.awake i (.prompt id)).metadata = r.metadata := hidle .metadata (by decide)
  have hfiles : (r.awake i (.prompt id)).files = r.files := hidle .files (by decide)
  obtain ⟨q, hbind, hbinds⟩ : ∃ q, (r.awake i (.prompt id)).bind s d role = (.done 0, q) ∧
      (r.awake i (.prompt id)).Binds s role d info q :=
    binds_bind (by rw [hcalls, hinfo]) (by rw [hmetadata, hfiles, hsave])
  obtain ⟨hturn, hafter⟩ := after_of_waitResult? ht hstatus hnode hresult
  rw [show (r.awake i (.prompt id)).proceed s (.ok k) (.bind candidates role) = _ from
    (bindChosen_of_getElem? hd).trans hbind] at hturn hafter
  exact ⟨q, endsWith_of_turn? ht hnode hturn hafter, hbinds.of_modifies hidle⟩

end Answered

/-! ## Selections in every state -/

/-- The files of a run are in order whatever it does, if those of others are. -/
lemma numbered_afterAll {x : Ensemble} (hfiles : x.files.Sound 0) {moves : List Move}
    (hapart : (x.newRun s).AllApart s moves) : ((x.newRun s).afterAll s moves).files.Numbered := by
  obtain ⟨l, hfiled⟩ := exists_filed_afterAll (filed_newRun (s := s) hfiles) hapart
  exact FileStore.Sound.numbered hfiled.files

/-- The candidates of a selection are the available devices that suit, in their order.  Without any, it ends with the
code 1 and has changed nothing; the only one is bound at once.  Of several, the host is shown the types, each at the
index of its candidate, and nothing else changes.  Whatever happens until the answer, as long as the run is neither
paused nor stopped: the next step binds the candidate of that index, and if there is none it ends with the code 1 and
has changed nothing.

A device is bound with the code 0 if the backend describes it and the metadata can be saved.  The numbers of files are
in range whatever a run does, as long as other runs leave them so (`numbered_afterAll`). -/
theorem select_binds_or_leaves (x : Ensemble) (s : Setup) (moves : List Move) {i : Nat} {a : SelectArguments}
    (htaken : ((x.newRun s).afterAll s moves).taken? s (.step i) = some (.select a)) :
    let r := (x.newRun s).afterAll s moves
    let candidates := s.available.filter fun d => a.filter.Suits d
    let role := a.role.getD defaultRole
    (candidates = [] → ∃ q, r.EndsWith s i 1 q ∧ Modifies idleFields r q) ∧
    (∀ d info files, candidates = [d] → s.backend.deviceInfo r.calls d = .ok info →
      (r.metadata.describing role info).save s.folder r.files = .ok files →
      ∃ q, r.EndsWith s i 0 q ∧ r.Binds s role d info q) ∧
    (2 ≤ candidates.length →
      let id := r.prompts.issued + 1
      let r' := r.after s (.step i)
      r'.notices = r.notices ++ [.choice id ⟨none, a.prompt.map s.format, candidates.map (·.type.text)⟩] ∧
      Modifies [.point, .prompts, .notices, .tasks] r r' ∧
      ∀ later, ¬ r'.Happens s (Steps s i) later → ¬ r'.Happens s (Halts s) later →
        ∀ index : Int, (id, .value index) ∈ r'.accepted s later →
          let q := r'.afterAll s later
          (index < 0 ∨ candidates.length ≤ index → ∃ q', q.EndsWith s i 1 q' ∧ Modifies idleFields q q') ∧
          ∀ (k : Nat) d info files, index = k → candidates[k]? = some d → s.backend.deviceInfo q.calls d = .ok info →
            (q.metadata.describing role info).save s.folder q.files = .ok files →
            ∃ q', q.EndsWith s i 0 q' ∧ q.Binds s role d info q') := by
  intro r candidates role
  have hselect : a.filter.select s.available = candidates := a.filter.select_eq s.available
  refine ⟨fun hnone => select_leaves htaken (hselect.trans hnone), fun d info files hsingle hinfo hsave => ?_,
    fun hseveral => ?_⟩
  · exact select_binds htaken (hselect.trans hsingle) hinfo hsave
  · intro id r'
    obtain ⟨hasks, ⟨t, p, htask, hstatus⟩, hnotices, hmodifies⟩ := asks_of_several htaken (hselect.symm ▸ hseveral)
    rw [choiceOf, hselect] at hnotices
    rw [hselect] at hstatus
    refine ⟨hnotices, hmodifies, fun later hsteps hhalts index hanswer => ?_⟩
    intro q
    obtain ⟨t', p', node, resumption, ht', hkept, hstatus', hnode, hresult⟩ :=
      waitResult?_of_accepted x s moves hasks hsteps hhalts hanswer
    -- The task still waits to bind one of these candidates.
    obtain rfl : t = t' := Option.some.inj (htask.symm.trans ht')
    obtain ⟨rfl, -, rfl⟩ := TaskStatus.waiting.inj (hstatus.symm.trans hstatus')
    refine ⟨fun hout => choice_leaves hkept hstatus hnode hresult hout, ?_⟩
    rintro k d info files rfl hd hinfo hsave
    exact choice_binds hkept hstatus hnode hresult hd hinfo hsave

/-- The host is asked which of two phones it wants.  It chooses the second, or one that it was not shown. -/
theorem select_binds_or_leaves_twoPhones :
    let phone (model : String) : Device := ⟨.mobilePhone, [], [("model", .str model)]⟩
    let wanted : List (String × Json) := [("device_name", .str "left"), ("sensor_device_type", .str "mobile_phone")]
    let nodes : Dict Node :=
      [("a", { Node.ofPrimitive .deviceSelect with arguments := .obj wanted, next := [some "b"] }),
        ("b", Node.ofPrimitive .waitNext)]
    let s : Setup :=
      { definition := { scenarioId := 1, content := { entry := "a", nodes } }, folder := ["run"]
        available := [⟨.esp32Logger, [], []⟩, phone "one", phone "two"] }
    let x : Ensemble := { files := {} }
    let r := (x.newRun s).afterAll s [.start]
    let told (index : Int) := (r.after s (.step 0)).afterAll s [.answer 1 (.value index)]
    let info := Backend.describe (phone "two")
    (∃ q, (told 1).EndsWith s 0 0 q ∧ (told 1).Binds s "left" (phone "two") info q ∧
      q.files.read? ["run", "metadata.json"] = some (Utf8.encode q.metadata.text.toList)) ∧
      ∃ q, (told 2).EndsWith s 0 1 q ∧ Modifies idleFields (told 2) q := by
  intro phone wanted nodes s x r told info
  have htaken : r.taken? s (.step 0) = some (.select ⟨{ type := some .mobilePhone }, some "left", none⟩) := rfl
  obtain ⟨-, -, hseveral⟩ := select_binds_or_leaves x s [.start] htaken
  obtain ⟨-, -, htold⟩ := hseveral (by decide +kernel)
  have hsteps (index : Int) : ¬ (r.after s (.step 0)).Happens s (Steps s 0) [.answer 1 (.value index)] := by
    simp [Happens, Steps]
  have hhalts (index : Int) (h : ((r.after s (.step 0)).after s (.answer 1 (.value index))).state = .running) :
      ¬ (r.after s (.step 0)).Happens s (Halts s) [.answer 1 (.value index)] := by
    rintro (⟨-, hhalted⟩ | hnever)
    · exact hhalted h
    · exact hnever
  obtain ⟨files, hsave⟩ :
      ∃ files, ((told 1).metadata.describing "left" info).save s.folder (told 1).files = .ok files :=
    Metadata.exists_of_save (by decide +kernel)
  have hsecond : (s.available.filter fun d => DeviceFilter.Suits { type := some .mobilePhone } d)[1]? =
      some (phone "two") := by
    rw [← DeviceFilter.select_eq]
    rfl
  obtain ⟨-, hchosen⟩ := htold _ (hsteps 1) (hhalts 1 (by decide +kernel)) 1 (by decide +kernel)
  obtain ⟨hnone, -⟩ := htold _ (hsteps 2) (hhalts 2 (by decide +kernel)) 2 (by decide +kernel)
  obtain ⟨q, hends, hbinds⟩ := hchosen 1 (phone "two") info files rfl hsecond rfl hsave
  have hnumbered : (told 1).files.Numbered := by
    have hall : ((x.newRun s).afterAll s ([.start] ++ .step 0 :: [.answer 1 (.value 1)])).files.Numbered :=
      numbered_afterAll FileStore.sound_empty (by simp [AllApart])
    rwa [afterAll_append, afterAll_cons] at hall
  exact ⟨⟨q, hends, hbinds, hbinds.stored hnumbered⟩, hnone (.inr (by decide +kernel))⟩

end Run

end FieldStudy
