import Mathlib.Data.List.Basic
import Mathlib.Tactic.Common
import FieldStudy.Proofs.Dict
import FieldStudy.Proofs.Run.Reports
import FieldStudy.Session.Basic

/-!
# Starting a session

A scenario starts as soon as one device meets one of its requirements, and the others may stay unmet
(`Session.start_needs_a_suitable_device`).  The devices that meet a requirement are bound to roles that are named for
their types, so of several of one type the last one takes the place of the others (`Session.start_binds_last_suitable`).
-/

namespace FieldStudy

namespace Requirement

/-- The device is of the type, and it has each of the sensors. -/
def Fits (req : Requirement) (d : Device) : Prop :=
  d.type = req.type ∧ ∀ sensor ∈ req.sensors, ∃ info ∈ d.sensors, info.type = sensor

lemma accepts_iff {req : Requirement} {d : Device} : req.accepts d = true ↔ req.Fits d := by
  rw [accepts, Bool.and_eq_true_iff, beq_iff_eq, List.all_eq_true]
  refine and_congr eq_comm (forall₂_congr fun sensor _ => ?_)
  simp [Device.hasSensor]

end Requirement

/-- The device meets a requirement, or there are none. -/
def Device.Suits (d : Device) (required : List Requirement) : Prop := required = [] ∨ ∃ req ∈ required, req.Fits d

lemma suits_iff {d : Device} {required : List Requirement} :
    (required.isEmpty || required.any (·.accepts d)) = true ↔ d.Suits required := by
  simp [Device.Suits, Requirement.accepts_iff]

instance (d : Device) (required : List Requirement) : Decidable (d.Suits required) := decidable_of_iff _ suits_iff

lemma requiredDevices_eq (devices : List Device) (required : List Requirement) :
    requiredDevices devices required = devices.filter fun d => d.Suits required := by
  have hsuits (d : Device) : decide (d.Suits required) = (required.isEmpty || required.any (·.accepts d)) := by
    rw [Bool.eq_iff_iff, decide_eq_true_iff, suits_iff]
  simp only [hsuits]
  rw [requiredDevices]
  cases required with
  | nil => simp
  | cons req rest => rfl

lemma mem_requiredDevices {d : Device} {devices : List Device} {required : List Requirement} :
    d ∈ requiredDevices devices required ↔ d ∈ devices ∧ d.Suits required := by
  rw [requiredDevices_eq, List.mem_filter, decide_eq_true_iff]

/-- The last device of its type among those that suit. -/
def IsLastSuitable (required : List Requirement) (devices : List Device) (d : Device) : Prop :=
  ∃ earlier later, devices = earlier ++ d :: later ∧ d.Suits required ∧
    ∀ other ∈ later, other.Suits required → other.type ≠ d.type

lemma isLastSuitable_iff {d : Device} {devices : List Device} {required : List Requirement} :
    IsLastSuitable required devices d ↔ ∃ earlier later, requiredDevices devices required = earlier ++ d :: later ∧
      ∀ other ∈ later, other.type ≠ d.type := by
  rw [requiredDevices_eq]
  constructor
  · rintro ⟨earlier, later, rfl, hsuits, hlater⟩
    have hkept : (d :: later).filter (fun d => d.Suits required) = d :: later.filter fun d => d.Suits required :=
      List.filter_cons_of_pos (decide_eq_true hsuits)
    rw [List.filter_append, hkept]
    refine ⟨_, _, rfl, fun other hother => ?_⟩
    obtain ⟨hmem, hother⟩ := List.mem_filter.mp hother
    exact hlater other hmem (of_decide_eq_true hother)
  · rintro ⟨earlier, later, heq, hlater⟩
    obtain ⟨before, rest, rfl, -, hrest⟩ := List.filter_eq_append_iff.mp heq
    obtain ⟨between, behind, rfl, -, hsuits, rfl⟩ := List.filter_eq_cons_iff.mp hrest
    refine ⟨before ++ between, behind, (List.append_assoc ..).symm, of_decide_eq_true hsuits, ?_⟩
    intro other hmem hother
    exact hlater other (List.mem_filter.mpr ⟨hmem, decide_eq_true hother⟩)

lemma DeviceType.text_injective {t t' : DeviceType} (h : t.text = t'.text) : t = t' := by
  cases t <;> cases t' <;> first | rfl | exact absurd h (by decide)

/-- The bindings that a run begins with are those of the last device of each type. -/
lemma Setup.mem_roles {s : Setup} {b : RoleBinding} :
    b ∈ s.roles.values ↔ ∃ earlier d later, s.preselected = earlier ++ d :: later ∧
      (∀ other ∈ later, other.type ≠ d.type) ∧ b = ⟨d.type.text, d, []⟩ := by
  rw [Setup.roles, (Dict.sorted_ofList _).mem_values]
  constructor
  · rintro ⟨role, hb⟩
    obtain ⟨before, behind, heq, hbehind⟩ := Dict.get?_ofList_eq_some_iff.mp hb
    obtain ⟨earlier, rest, hdevices, -, hrest⟩ := List.map_eq_append_iff.mp heq
    obtain ⟨d, later, rfl, hpair, rfl⟩ := List.map_eq_cons_iff.mp hrest
    obtain ⟨rfl, rfl⟩ := Prod.mk.inj hpair
    refine ⟨earlier, d, later, hdevices, fun other hother htype => ?_, rfl⟩
    exact hbehind _ (List.mem_map_of_mem hother) (congrArg DeviceType.text htype)
  · rintro ⟨earlier, d, later, hdevices, hlater, rfl⟩
    rw [hdevices, List.map_append, List.map_cons]
    refine ⟨d.type.text, Dict.get?_ofList_eq_some_iff.mpr ⟨_, _, rfl, fun p hp => ?_⟩⟩
    obtain ⟨other, hother, rfl⟩ := List.mem_map.mp hp
    exact fun htext => hlater other hother (DeviceType.text_injective htext)

namespace Ensemble

/-- The fields that change when what a run has open is closed, and those that it shares. -/
def idleFields : List RunField := [.files, .notices, .calls, .agenda, .writers, .log]

/-- Letting go of a run closes what it has open and leaves all runs otherwise as they are. -/
lemma runs_letGo (x : Ensemble) (j : Nat) {i : Nat} {e : LiveRun} (h : x.runs[i]? = some e) :
    ∃ r, (x.letGo j).runs[i]? = some ⟨e.setup, r⟩ ∧ Run.Modifies idleFields e.run r := by
  have hsame : ∃ r, x.runs[i]? = some ⟨e.setup, r⟩ ∧ Run.Modifies idleFields e.run r := ⟨e.run, h, .refl _ _⟩
  rw [letGo]
  split
  · exact hsame
  · split
    · next e' he' =>
      split
      · by_cases hj : j = i
        · subst hj
          rw [live?, h, Option.map_some] at he'
          obtain rfl := Option.some.inj he'
          refine ⟨(x.lend e.run).releaseFiles, by simp [takeBack, h], ?_⟩
          have hlent : Run.Modifies idleFields e.run (x.lend e.run) := by
            intro f hf
            cases f <;> first | rfl | simp [idleFields] at hf
          exact hlent.trans ((Run.modifies_releaseFiles _).mono (by decide))
        · rw [x.run_takeBack_of_ne _ hj]
          exact hsame
      · exact hsame
    · exact hsame

/-- The run that has been added is the current one. -/
lemma current_install (x : Ensemble) (s : Setup) (r : Run) :
    ∃ r', (x.install s r).current? = some ⟨s, r'⟩ ∧ Run.Modifies idleFields r r' := by
  let added : Ensemble := { x with runs := x.runs ++ [(⟨s, r⟩ : LiveRun)] }.takeBack x.runs.length r
  have hadded : added.runs[x.runs.length]? = some ⟨s, r⟩ := by simp [added, takeBack]
  obtain ⟨q, hq, hmodifies⟩ : ∃ q, added.dismiss.runs[x.runs.length]? = some ⟨s, q⟩ ∧ Run.Modifies idleFields r q := by
    rw [dismiss]
    split
    · exact runs_letGo { added with current := none } _ hadded
    · exact ⟨r, hadded, .refl _ r⟩
  refine ⟨{ added.dismiss with current := some x.runs.length }.lend q, ?_, hmodifies.trans ?_⟩
  · show ((added.dismiss.runs[x.runs.length]?).map _) = _
    rw [hq]
    rfl
  · intro f hf
    cases f <;> first | rfl | simp [idleFields] at hf

end Ensemble

lemma Run.start_error (r : Run) (s : Setup) {e : ScenarioError} (h : (r.start s).1 = .error e) :
    ∃ io, e = .io io := by
  rw [Run.start] at h
  split at h
  · cases h
  · split at h
    · next io _ _ => exact ⟨io, (Except.error.inj h).symm⟩
    · cases h

namespace Session

variable {x : Session} {d : Definition} {profile : Profile} {devices : List Device}

/-- The setup of a run of the session. -/
def setupOf (x : Session) (d : Definition) (profile : Profile) (devices : List Device) : Setup :=
  { definition := d, folder := x.nextFolder, profile, config := x.config, available := devices
    preselected := requiredDevices devices d.info.required, backend := x.backend
    drains := x.nextOccasion.drains }

/-- How a start goes. -/
inductive Started (x : Session) (d : Definition) (profile : Profile) (devices : List Device) :
    Except ScenarioError Unit × Session → Prop
  | busy {e : LiveRun} (hactive : x.active? = some e) :
      Started x d profile devices
        (.error (.definition s!"scenario {e.setup.definition.scenarioId} is still running"), x)
  | unsuited (hidle : x.active? = none) (hnone : ∀ dev ∈ devices, ¬ dev.Suits d.info.required) :
      Started x d profile devices
        (.error (.capability "no available sensor device satisfies the scenario requirements"), x)
  | unstored (hidle : x.active? = none) (hsome : ∃ dev ∈ devices, dev.Suits d.info.required) (e : IoError)
      (y : Session) : Started x d profile devices (.error (.io e), y)
  | starts (hidle : x.active? = none) (hsome : ∃ dev ∈ devices, dev.Suits d.info.required) (y : Ensemble) (r : Run)
      (hstart : (y.newRun (x.setupOf d profile devices)).start (x.setupOf d profile devices) = (.ok (), r)) :
      Started x d profile devices
        (.ok (), { x with
          ensemble := y.install (x.setupOf d profile devices) r
          folders := x.folders + 1 })

lemma started_start (x : Session) (d : Definition) (profile : Profile) (devices : List Device) :
    Started x d profile devices (x.start d profile devices) := by
  rw [start]
  split
  · next e hactive => exact .busy hactive
  · next hidle =>
    dsimp only
    split
    · next hempty =>
      refine .unsuited hidle fun dev hdev hsuits => ?_
      have hmem := mem_requiredDevices.mpr ⟨hdev, hsuits⟩
      rw [List.isEmpty_iff.mp hempty] at hmem
      exact absurd hmem List.not_mem_nil
    · next hempty =>
      obtain ⟨dev, hdev⟩ := List.exists_mem_of_ne_nil _ (mt List.isEmpty_iff.mpr hempty)
      have hsome : ∃ dev ∈ devices, dev.Suits d.info.required := ⟨dev, mem_requiredDevices.mp hdev⟩
      split
      · next e _ => exact .unstored hidle hsome e x
      · next files _ =>
        split
        · next e r hstart =>
          obtain ⟨io, rfl⟩ := Run.start_error _ _ (congrArg Prod.fst hstart)
          exact .unstored hidle hsome io _
        · next r hstart => exact .starts hidle hsome { x.ensemble with files } r hstart

/-- Once a scenario has started, some device meets one of its requirements; that the others are met is not looked at.
While no run is under way a start is refused, and changes nothing, if no device meets any requirement, and otherwise
only the storage can keep the scenario from starting. -/
theorem start_needs_a_suitable_device (x : Session) (d : Definition) (profile : Profile) (devices : List Device) :
    ((x.start d profile devices).1.isOk = true → ∃ dev ∈ devices, dev.Suits d.info.required) ∧
    (x.active? = none →
      ((∀ dev ∈ devices, ¬ dev.Suits d.info.required) → x.start d profile devices =
        (.error (.capability "no available sensor device satisfies the scenario requirements"), x)) ∧
      ((∃ dev ∈ devices, dev.Suits d.info.required) → (x.start d profile devices).1 = .ok () ∨
        ∃ e, (x.start d profile devices).1 = .error (.io e))) := by
  have hstarted := x.started_start d profile devices
  generalize x.start d profile devices = answer at hstarted ⊢
  cases hstarted with
  | busy hactive =>
    refine ⟨nofun, fun hidle => ?_⟩
    rw [hactive] at hidle
    cases hidle
  | unsuited hidle hnone =>
    refine ⟨nofun, fun _ => ⟨fun _ => rfl, ?_⟩⟩
    rintro ⟨dev, hdev, hsuits⟩
    exact absurd hsuits (hnone dev hdev)
  | unstored hidle hsome e y =>
    obtain ⟨dev, hdev, hsuits⟩ := hsome
    exact ⟨nofun, fun _ => ⟨fun hnone => absurd hsuits (hnone dev hdev), fun _ => .inr ⟨e, rfl⟩⟩⟩
  | starts hidle hsome y r hstart =>
    refine ⟨fun _ => hsome, fun _ => ⟨fun hnone => ?_, fun _ => .inl rfl⟩⟩
    obtain ⟨dev, hdev, hsuits⟩ := hsome
    exact absurd hsuits (hnone dev hdev)

/-- A phone, or nothing, for a scenario that requires a phone and a logger. -/
theorem start_needs_a_suitable_device_ofTwo :
    let phone : Device := ⟨.mobilePhone, [⟨"", "generic.acc", []⟩], []⟩
    let required : List Requirement := [⟨.esp32Logger, ["generic.gyr"]⟩, ⟨.mobilePhone, ["generic.acc"]⟩]
    let nodes : Dict Node := [("a", Node.ofPrimitive .waitNext)]
    let d : Definition := { scenarioId := 1, info := { required }, content := { entry := "a", nodes } }
    let x := initial {} ["data"] .none {}
    (x.start d {} [phone]).1.isOk = true ∧ (∃ dev ∈ [phone], dev.Suits required) ∧ x.active? = none ∧
      x.start d {} [] =
        (.error (.capability "no available sensor device satisfies the scenario requirements"), x) := by
  intro phone required nodes d x
  have hok : (x.start d {} [phone]).1.isOk = true := by decide +kernel
  have hidle : x.active? = none := rfl
  obtain ⟨hsome, -⟩ := start_needs_a_suitable_device x d {} [phone]
  obtain ⟨-, hrefused⟩ := start_needs_a_suitable_device x d {} []
  exact ⟨hok, hsome hok, hidle, (hrefused hidle).1 (List.forall_mem_nil _)⟩

/-- A scenario starts although no device meets its requirement of a logger. -/
theorem unmet_requirement_starts :
    let phone : Device := ⟨.mobilePhone, [⟨"", "generic.acc", []⟩], []⟩
    let required : List Requirement := [⟨.mobilePhone, ["generic.acc"]⟩, ⟨.esp32Logger, ["generic.gyr"]⟩]
    let nodes : Dict Node := [("a", Node.ofPrimitive .waitNext)]
    let d : Definition := { scenarioId := 42, info := { required }, content := { entry := "a", nodes } }
    let x := initial {} ["data"] .none {}
    ¬ ((x.start d {} [phone]).1.isOk = true → ∀ req ∈ required, ∃ dev ∈ [phone], req.Fits dev) := by
  intro phone required nodes d x hclaim
  have hok : (x.start d {} [phone]).1.isOk = true := by decide +kernel
  obtain ⟨dev, hdev, htype, -⟩ := hclaim hok ⟨.esp32Logger, ["generic.gyr"]⟩ (by simp [required])
  rw [List.mem_singleton.mp hdev] at htype
  exact absurd htype (by decide)

/-- Right after a scenario has started it can choose from all devices in their order, and those that are bound are, for
each type, the last device that meets a requirement, under the name of the type. -/
theorem start_binds_last_suitable (x : Session) (d : Definition) (profile : Profile) (devices : List Device)
    (hok : (x.start d profile devices).1.isOk = true) :
    ∃ e, (x.start d profile devices).2.current? = some e ∧ e.run.state = .running ∧ e.setup.available = devices ∧
      ∀ b, b ∈ e.run.roles.values ↔
        ∃ dev, IsLastSuitable d.info.required devices dev ∧ b = ⟨dev.type.text, dev, []⟩ := by
  have hstarted := x.started_start d profile devices
  generalize x.start d profile devices = answer at hstarted hok ⊢
  cases hstarted with
  | busy | unsuited | unstored => cases hok
  | starts hidle hsome y r hstart =>
    have hbegins : (y.newRun (x.setupOf d profile devices)).begins (x.setupOf d profile devices) .start = true := by
      rw [Run.begins, hstart]
      rfl
    have hmodifies := Run.modifies_start hbegins
    rw [Run.after, hstart] at hmodifies
    obtain ⟨r', hcurrent, hsame⟩ := y.current_install (x.setupOf d profile devices) r
    have hroles : r'.roles = (x.setupOf d profile devices).roles :=
      (hsame .roles (by decide)).trans (hmodifies .roles (by decide))
    have hstate : r'.state = .running := (hsame .state (by decide)).trans (hmodifies .state (by decide))
    refine ⟨_, hcurrent, hstate, rfl, fun b => ?_⟩
    rw [hroles, Setup.mem_roles]
    constructor
    · rintro ⟨earlier, dev, later, hdevices, hlater, rfl⟩
      exact ⟨dev, isLastSuitable_iff.mpr ⟨earlier, later, hdevices, hlater⟩, rfl⟩
    · rintro ⟨dev, hlast, rfl⟩
      obtain ⟨earlier, later, hdevices, hlater⟩ := isLastSuitable_iff.mp hlast
      exact ⟨earlier, dev, later, hdevices, hlater, rfl⟩

/-- Two phones that meet the same requirement: the second one is bound, and nothing else. -/
theorem start_binds_last_suitable_ofTwo :
    let phone (model : String) : Device := ⟨.mobilePhone, [⟨"", "generic.acc", []⟩], [("model", .str model)]⟩
    let required : List Requirement := [⟨.mobilePhone, ["generic.acc"]⟩]
    let nodes : Dict Node := [("a", Node.ofPrimitive .waitNext)]
    let d : Definition := { scenarioId := 1, info := { required }, content := { entry := "a", nodes } }
    let x := initial {} ["data"] .none {}
    (x.start d {} [phone "a", phone "b"]).1.isOk = true ∧
      ∃ e, (x.start d {} [phone "a", phone "b"]).2.current? = some e ∧ e.run.state = .running ∧
        e.setup.available = [phone "a", phone "b"] ∧
        ∀ b, b ∈ e.run.roles.values ↔ b = ⟨"mobile_phone", phone "b", []⟩ := by
  intro phone required nodes d x
  have hok : (x.start d {} [phone "a", phone "b"]).1.isOk = true := by decide +kernel
  obtain ⟨e, hcurrent, hstate, havailable, hroles⟩ := start_binds_last_suitable x d {} _ hok
  have hsuits (model : String) : (phone model).Suits required := by
    simp [phone, required, Device.Suits, Requirement.Fits]
  refine ⟨hok, e, hcurrent, hstate, havailable, fun b => (hroles b).trans ⟨?_, ?_⟩⟩
  · rintro ⟨dev, ⟨earlier, later, hdevices, -, hlater⟩, rfl⟩
    match earlier with
    | [] =>
      obtain ⟨rfl, rfl⟩ := List.cons.inj hdevices
      exact absurd rfl (hlater (phone "b") (List.mem_singleton_self _) (hsuits "b"))
    | [_] =>
      obtain ⟨rfl, -⟩ := List.cons.inj (List.cons.inj hdevices).2
      rfl
    | _ :: _ :: rest => simp at hdevices
  · rintro rfl
    exact ⟨phone "b", ⟨[phone "a"], [], rfl, hsuits "b", List.forall_mem_nil _⟩, rfl⟩

/-- Of two phones that meet the requirement the first one is not bound. -/
theorem suitable_phone_left_out :
    let phone (model : String) : Device := ⟨.mobilePhone, [⟨"", "generic.acc", []⟩], [("model", .str model)]⟩
    let required : List Requirement := [⟨.mobilePhone, ["generic.acc"]⟩]
    let nodes : Dict Node := [("a", Node.ofPrimitive .waitNext)]
    let d : Definition := { scenarioId := 42, info := { required }, content := { entry := "a", nodes } }
    let x := initial {} ["data"] .none {}
    let devices : List Device := [phone "a", phone "b"]
    ¬ ((x.start d {} devices).1.isOk = true → ∀ e, (x.start d {} devices).2.current? = some e →
      ∀ dev ∈ devices, dev.Suits required → ∃ b ∈ e.run.roles.values, b.device = dev) := by
  intro phone required nodes d x devices hclaim
  let model (dev : Device) : Option String := (dev.property? "model").bind Json.str?
  have hok : (x.start d {} devices).1.isOk = true := by decide +kernel
  have hmodels : (x.start d {} devices).2.current?.map (fun e => e.run.roles.values.map fun b => model b.device) =
      some [some "b"] := by decide +kernel
  obtain ⟨e, hcurrent, hvalues⟩ := Option.map_eq_some_iff.mp hmodels
  obtain ⟨b, hb, hdevice⟩ := hclaim hok e hcurrent (phone "a") List.mem_cons_self
    (by simp [phone, required, Device.Suits, Requirement.Fits])
  have hmem : model b.device ∈ [some "b"] := hvalues ▸ List.mem_map_of_mem hb
  rw [hdevice] at hmem
  exact absurd hmem (by decide)

end Session

end FieldStudy
