import Mathlib.Data.List.Basic
import Mathlib.Tactic.Common
import FieldStudy.Proofs.Device.Settings
import FieldStudy.Proofs.Run.Mirror
import FieldStudy.Proofs.Run.Stored

/-!
# Nodes that configure devices

A node that sets several settings does what one node for each of them does (`Run.setConfig_one_by_one`).  The two are
compared by what pairs make of the configurations of the targeted roles and of their copies in the metadata
(`Mirror.Configures`): a further merge of further pairs does that for all pairs so far (`Mirror.Configures.merged`), so
it holds of the one merge and of the many, and it determines the result.
-/

namespace FieldStudy

namespace Mirror

variable {g g' g'' : Mirror} {names : Option (List String)} {pairs others : List (String × Json)} {role : String}
  {b : RoleBinding}

/-! ## States of configurations -/

/-- Roles are listed under their names, and all tables hold their keys in order. -/
structure Orderly (g : Mirror) : Prop where
  listed : g.Listed
  copies : g.copies.Sorted
  config : ∀ role b, g.roles.get? role = some b → b.config.Neat
  copy : ∀ role, Dict.Neat (copyOf g.copies role)

lemma sorted_noteAll {copies : Dict Json} (h : copies.Sorted) (bs : List RoleBinding)
    (f : RoleBinding → Dict Json) : (noteAll bs f copies).Sorted := by
  induction bs generalizing copies with
  | nil => exact h
  | cons b rest ih => exact ih (h.insert _ _)

/-- A role that is not bound is not targeted. -/
lemma Listed.get?_noteAll_of_not (h : g.Listed) (f : RoleBinding → Dict Json)
    (hnot : ∀ b, g.roles.get? role = some b → isTargeted names role = false) :
    (noteAll (g.targets names) f g.copies).get? role = g.copies.get? role := by
  rw [h.get?_noteAll]
  cases hb : g.roles.get? role with
  | none => rfl
  | some b =>
    dsimp only
    rw [hnot b hb, if_neg Bool.false_ne_true]

namespace Orderly

/-- Merging neat settings into copies leaves them neat. -/
lemma copy_noteAll (h : g.Orderly) {f : RoleBinding → Dict Json}
    (hf : ∀ role b, g.roles.get? role = some b → (f b).Neat) (role : String) :
    Dict.Neat (copyOf (noteAll (g.targets names) f g.copies) role) := by
  cases hb : g.roles.get? role with
  | none =>
    rw [copyOf, h.listed.get?_noteAll_of_not f (by simp [hb]), ← copyOf]
    exact h.copy role
  | some b =>
    rw [h.listed.copyOf_noteAll f hb]
    split
    · exact (h.copy role).mergeConfig Json.merges_neat (hf role b hb)
    · exact h.copy role

lemma change {label : Option String} (h : g.Orderly) (hchange : g.Change label g') : g'.Orderly := by
  cases hchange with
  | keeps => exact h
  | @merges names values hvalues =>
    refine ⟨h.listed.merged names values, sorted_noteAll h.copies _ _, fun role c hc => ?_,
      h.copy_noteAll fun _ _ _ => hvalues.neat⟩
    obtain ⟨b, hb, rfl⟩ := Option.map_eq_some_iff.mp ((h.listed.get?_merged names values role).symm.trans hc)
    split
    · exact (h.config role b hb).mergeConfig Json.merges_neat hvalues.neat
    · exact h.config role b hb
  | dumps names keys =>
    exact ⟨⟨h.listed.sorted, h.listed.named⟩, sorted_noteAll h.copies _ _, h.config,
      h.copy_noteAll fun role b hb => (h.config role b hb).pickConfig keys⟩
  | binds role d =>
    refine ⟨h.listed.binds role d, h.copies, fun role' c hc => ?_, h.copy⟩
    rw [Dict.get?_insert] at hc
    split at hc
    · obtain rfl := Option.some.inj hc
      exact Dict.holds_nil _
    · exact h.config role' c hc

end Orderly

/-! ## What pairs make of configurations and copies -/

/-- What pairs make of the configurations of the targeted roles and of their copies. -/
structure Configures (names : Option (List String)) (pairs : List (String × Json)) (g g' : Mirror) : Prop where
  listed : g'.Listed
  copies : g'.copies.Sorted
  /-- A targeted role keeps its device. -/
  config : ∀ role b, g.roles.get? role = some b → isTargeted names role = true →
    ∃ config, g'.roles.get? role = some { b with config } ∧ config.Sorted ∧ Sets pairs b.config config
  copy : ∀ role b, g.roles.get? role = some b → isTargeted names role = true →
    (pairs ≠ [] → g'.copies.get? role = some (.obj (copyOf g'.copies role))) ∧
      Dict.Sorted (copyOf g'.copies role) ∧ Sets pairs (copyOf g.copies role) (copyOf g'.copies role)
  /-- Roles that are not targeted keep what they have. -/
  others : ∀ role, (∀ b, g.roles.get? role = some b → isTargeted names role = false) →
    g'.roles.get? role = g.roles.get? role ∧ g'.copies.get? role = g.copies.get? role

namespace Configures

lemma nil (h : g.Orderly) (names : Option (List String)) : g.Configures names [] g where
  listed := h.listed
  copies := h.copies
  config role b hb _ := ⟨b.config, hb, (h.config role b hb).sorted, .nil⟩
  copy role _ _ _ := ⟨fun hne => absurd rfl hne, (h.copy role).sorted, .nil⟩
  others _ _ := ⟨rfl, rfl⟩

/-- Another merge: if it is of further pairs, it does what all pairs together say. -/
lemma merged (h : g.Configures names pairs g') (hg : g.Orderly) (hseparate : Separate (pairs ++ others)) :
    g.Configures names (pairs ++ others) (g'.merged names (configObject others)) := by
  -- No further pair has a sensor whose settings were replaced as a whole, so those of each sensor are still in order.
  have hmerge {old mid : Dict Json} (hold : old.Neat) (hsets : Sets pairs old mid) :
      Sets (pairs ++ others) old (mergeConfig mid (configObject others)) :=
    hsets.append (sets_mergeConfig hseparate.right fun sensor hsensor =>
      hsets.sorted_settingsAt hold.settingsAt fun hx => (hseparate.notMem_left hx).2 hsensor) hseparate
  have hroles := h.listed.get?_merged names (configObject others)
  refine ⟨h.listed.merged names _, sorted_noteAll h.copies _ _, fun role b hb htarget => ?_,
    fun role b hb htarget => ?_, fun role hnot => ?_⟩
  · obtain ⟨config, hconfig, hsorted, hsets⟩ := h.config role b hb htarget
    refine ⟨_, ?_, sorted_mergeConfig hsorted (configObject others), hmerge (hg.config role b hb) hsets⟩
    rw [hroles, hconfig, Option.map_some, if_pos htarget]
  · obtain ⟨config, hconfig, -, -⟩ := h.config role b hb htarget
    obtain ⟨-, hsorted, hsets⟩ := h.copy role b hb htarget
    have hcopy : (g'.merged names (configObject others)).copies.get? role =
        some (.obj (mergeConfig (copyOf g'.copies role) (configObject others))) := by
      rw [Mirror.merged, h.listed.get?_noteAll, hconfig]
      dsimp only
      rw [if_pos htarget]
    rw [copyOf_of_some hcopy]
    exact ⟨fun _ => hcopy, sorted_mergeConfig hsorted _, hmerge (hg.copy role) hsets⟩
  · obtain ⟨hsame, hcopy⟩ := h.others role hnot
    refine ⟨?_, ?_⟩
    · rw [hroles, hsame]
      cases hb : g.roles.get? role with
      | none => rfl
      | some b => rw [Option.map_some, hnot b hb, if_neg Bool.false_ne_true]
    · rw [Mirror.merged, h.listed.get?_noteAll_of_not _ (hsame ▸ hnot), hcopy]

/-- Pairs determine what they make of configurations and copies. -/
lemma unique (h : g.Configures names pairs g') (h' : g.Configures names pairs g'') (hne : pairs ≠ []) : g' = g'' := by
  have hrole (role : String) :
      g'.roles.get? role = g''.roles.get? role ∧ g'.copies.get? role = g''.copies.get? role := by
    by_cases hnot : ∀ b, g.roles.get? role = some b → isTargeted names role = false
    · obtain ⟨hsame, hcopy⟩ := h.others role hnot
      obtain ⟨hsame', hcopy'⟩ := h'.others role hnot
      exact ⟨hsame.trans hsame'.symm, hcopy.trans hcopy'.symm⟩
    · obtain ⟨b, hb⟩ := not_forall.mp hnot
      obtain ⟨hb, htarget⟩ := Classical.not_imp.mp hb
      have htarget := eq_true_of_ne_false htarget
      obtain ⟨config, hconfig, hsorted, hsets⟩ := h.config role b hb htarget
      obtain ⟨config', hconfig', hsorted', hsets'⟩ := h'.config role b hb htarget
      obtain ⟨hobj, hordered, hmembers⟩ := h.copy role b hb htarget
      obtain ⟨hobj', hordered', hmembers'⟩ := h'.copy role b hb htarget
      refine ⟨?_, ?_⟩
      · rw [hconfig, hconfig', hsets.unique hsets' hsorted hsorted']
      · rw [hobj hne, hobj' hne, hmembers.unique hmembers' hordered hordered']
  have hroles := h.listed.sorted.ext h'.listed.sorted fun role => (hrole role).1
  have hcopies := h.copies.ext h'.copies fun role => (hrole role).2
  cases g'
  cases g''
  exact congrArg₂ Mirror.mk hroles hcopies

/-- One merge for each of further pairs. -/
lemma foldl (h : g.Configures names pairs g') (hg : g.Orderly) (hseparate : Separate (pairs ++ others)) :
    g.Configures names (pairs ++ others) (others.foldl (fun g p => g.merged names (configObject [p])) g') := by
  induction others generalizing pairs g' with
  | nil => rwa [List.append_nil]
  | cons p rest ih =>
    rw [List.append_cons] at hseparate ⊢
    exact ih (h.merged hg hseparate.left) hseparate

end Configures

end Mirror

namespace Run

variable {r : Run} {s : Setup}

/-! ## States that a run reaches -/

lemma orderly_mirror_initial (s : Setup) : Mirror.Orderly ⟨s.roles, []⟩ := by
  have h := sound_mirror_initial s
  exact ⟨h.listed, Dict.sorted_nil, fun role b hb => (h.agrees role b hb).neat, fun _ => Dict.holds_nil _⟩

lemma orderly_mirror_after (h : r.mirror.Orderly) (m : Move) : (r.after s m).mirror.Orderly := by
  by_cases hbegins : m = .start ∧ r.state = .stopped
  · obtain ⟨rfl, hstate⟩ := hbegins
    rw [after, mirror_start s hstate]
    exact orderly_mirror_initial s
  · exact h.change (change_after fun hm hstate => hbegins ⟨hm, hstate⟩)

/-- Whatever moves a run has made, its tables hold their keys in order. -/
lemma orderly_mirror_afterAll (x : Ensemble) (s : Setup) (moves : List Move) :
    ((x.newRun s).afterAll s moves).mirror.Orderly := by
  have hall (r : Run) (h : r.mirror.Orderly) : (r.afterAll s moves).mirror.Orderly := by
    induction moves generalizing r with
    | nil => exact h
    | cons m rest ih => exact ih _ (orderly_mirror_after h m)
  exact hall _ (orderly_mirror_initial s)

/-! ## What a node does -/

lemma mirror_setConfig (r : Run) (s : Setup) (v : Visit) (names : Option (List String))
    (pairs : List (String × Json)) : (r.execute s v (.setConfig names pairs)).2.mirror =
      r.mirror.merged names (configObject pairs) :=
  (mirror_savedWith _ s 0).trans (r.mirror_mergeRoles names _)

/-- Of the metadata only the configurations change. -/
lemma metadata_setConfig (r : Run) (s : Setup) (v : Visit) (names : Option (List String))
    (pairs : List (String × Json)) : (r.execute s v (.setConfig names pairs)).2.metadata =
      { r.metadata with deviceConfig := (r.execute s v (.setConfig names pairs)).2.metadata.deviceConfig } := by
  have hfold (bs : List RoleBinding) (values : Dict Json) (m : Metadata) :
      bs.foldl (fun m b => m.mergeRoleConfig b.role values) m =
        { m with deviceConfig := (bs.foldl (fun m b => m.mergeRoleConfig b.role values) m).deviceConfig } := by
    induction bs generalizing m with
    | nil => rfl
    | cons b rest ih => exact ih (m.mergeRoleConfig b.role values)
  have hsaved := (r.mergeRoles names (configObject pairs)).modifies_savedWith s 0 .metadata (by decide)
  rw [show (r.execute s v (.setConfig names pairs)).2.metadata = _ from hsaved]
  exact hfold _ _ _

lemma stored_setConfig (h : Documented s r.files) (v : Visit) (names : Option (List String))
    (pairs : List (String × Json)) : (r.execute s v (.setConfig names pairs)).2.Stored s :=
  stored_savedWith (r := r.mergeRoles names (configObject pairs)) h 0

/-- The nodes of some pairs are taken one after the other. -/
def setEach (r : Run) (s : Setup) (names : Option (List String)) (nodes : List (Visit × String × Json)) : Run :=
  nodes.foldl (fun r n => (r.execute s n.1 (.setConfig names [n.2])).2) r

variable {names : Option (List String)} {nodes : List (Visit × String × Json)}

lemma setEach_cons (r : Run) (s : Setup) (names : Option (List String)) (n : Visit × String × Json)
    (rest : List (Visit × String × Json)) : r.setEach s names (n :: rest) =
      (r.execute s n.1 (.setConfig names [n.2])).2.setEach s names rest :=
  rfl

lemma mirror_setEach (r : Run) (s : Setup) (names : Option (List String)) (nodes : List (Visit × String × Json)) :
    (r.setEach s names nodes).mirror =
      (nodes.map (·.2)).foldl (fun g p => g.merged names (configObject [p])) r.mirror := by
  induction nodes generalizing r with
  | nil => rfl
  | cons n rest ih =>
    rw [setEach_cons, ih, List.map_cons, List.foldl_cons, mirror_setConfig]

lemma metadata_setEach (r : Run) (s : Setup) (names : Option (List String)) (nodes : List (Visit × String × Json)) :
    (r.setEach s names nodes).metadata =
      { r.metadata with deviceConfig := (r.setEach s names nodes).metadata.deviceConfig } := by
  induction nodes generalizing r with
  | nil => rfl
  | cons n rest ih =>
    rw [setEach_cons, ih, r.metadata_setConfig s n.1 names [n.2]]

lemma stored_setEach (h : Documented s r.files) (hne : nodes ≠ []) : (r.setEach s names nodes).Stored s := by
  induction nodes generalizing r with
  | nil => exact absurd rfl hne
  | cons n rest ih =>
    have hstored := stored_setConfig h n.1 names [n.2]
    cases rest with
    | nil => exact hstored
    | cons n' rest =>
      rw [setEach_cons]
      exact ih hstored.documented (List.cons_ne_nil n' rest)

/-- A node that configures devices by several pairs leaves the same roles and the same metadata as one node for each
pair, in their order, and in the same file, provided that no key without points is repeated or is the sensor of another
key.  Both do to each targeted configuration, and to its copy in the metadata, what the pairs say (`Sets`): the last
pair for a setting counts, other settings stay, and a value that is no object gives way to the settings of a sensor.

The tables of a run are orderly in all states that it reaches (`orderly_mirror_afterAll`). -/
theorem setConfig_one_by_one (r : Run) (s : Setup) (v : Visit) (names : Option (List String))
    (nodes : List (Visit × String × Json)) (hr : r.mirror.Orderly) (hne : nodes ≠ [])
    (hseparate : Separate (nodes.map (·.2))) :
    let pairs := nodes.map (·.2)
    let one := (r.execute s v (.setConfig names pairs)).2
    let many := r.setEach s names nodes
    one.roles = many.roles ∧ one.metadata = many.metadata ∧ r.mirror.Configures names pairs one.mirror ∧
      one.metadata = { r.metadata with deviceConfig := one.mirror.copies } ∧
      (Documented s r.files →
        one.files.read? (s.folder ++ [Metadata.file]) = many.files.read? (s.folder ++ [Metadata.file])) := by
  intro pairs one many
  have hone : r.mirror.Configures names pairs one.mirror := by
    rw [r.mirror_setConfig s v names pairs]
    exact (Mirror.Configures.nil hr names).merged hr hseparate
  have hmany : r.mirror.Configures names pairs many.mirror := by
    rw [r.mirror_setEach s names nodes]
    exact (Mirror.Configures.nil hr names).foldl hr hseparate
  have hmirror : one.mirror = many.mirror := hone.unique hmany fun heq => hne (List.map_eq_nil_iff.mp heq)
  have hmetadata : one.metadata = many.metadata := by
    rw [r.metadata_setConfig s v names pairs, r.metadata_setEach s names nodes]
    exact congrArg (fun g => { r.metadata with deviceConfig := Mirror.copies g }) hmirror
  refine ⟨congrArg Mirror.roles hmirror, hmetadata, hone, r.metadata_setConfig s v names pairs, fun hdocumented => ?_⟩
  rw [(stored_setConfig hdocumented v names pairs).contents, (stored_setEach hdocumented hne).contents, hmetadata]

/-- A phone has been selected and the rate of its accelerometer set as a number.  Four pairs put an object in its place,
in which the later one of two for the same setting counts. -/
theorem setConfig_one_by_one_repeated :
    let phone : Device := ⟨.mobilePhone, [⟨"", SensorType.acc, []⟩], []⟩
    let set (key : String) (value : Int) (next : String) : Node :=
      { Node.ofPrimitive .deviceSetConfig with
        arguments := .obj [("config", .arr [.arr [.str key, .int value]])], next := [some next] }
    let nodes : Dict Node :=
      [("a", { Node.ofPrimitive .deviceSelect with next := [some "b"] }), ("b", set "acc" 5 "c"),
        ("c", set "gain" 1 "d"), ("d", Node.ofPrimitive .waitNext)]
    let s : Setup :=
      { definition := { scenarioId := 1, content := { entry := "a", nodes } }, folder := ["run"], available := [phone] }
    let x : Ensemble := { files := {} }
    let r := (x.newRun s).afterAll s [.start, .step 0, .step 0, .step 0]
    let v : Visit := ⟨"main", "d", set "acc.rate" 2 "d", 0⟩
    let pairs : List (String × Json) :=
      [("acc.rate", .int 1), ("unit", .obj [("time", .str "ms")]), ("acc.range", .int 4), ("acc.rate", .int 2)]
    let one := (r.execute s v (.setConfig none pairs)).2
    let many := r.setEach s none (pairs.map (v, ·))
    one.roles = many.roles ∧ one.metadata = many.metadata ∧
      one.files.read? ["run", "metadata.json"] = many.files.read? ["run", "metadata.json"] ∧
      ((r.roles.get? "main").bind (·.config.get? "acc")).map Json.compact = some "5" ∧
      (one.roles.get? "main").map (fun b => (settingsAt b.config "acc").mapValues Json.compact) =
        some [("range", "4"), ("rate", "2")] := by
  intro phone set nodes s x r v pairs one many
  have hmap : (pairs.map (v, ·)).map (·.2) = pairs := rfl
  have hstored : r.Stored s :=
    stored_run FileStore.sound_empty [] [.step 0, .step 0, .step 0] (by decide +kernel) (by simp [AllApart])
      (by simp [StartsSucceed, Happens])
  have hsame :=
    setConfig_one_by_one r s v none (pairs.map (v, ·)) (orderly_mirror_afterAll x s _) (by simp [pairs])
      (by rw [hmap]; decide +kernel)
  dsimp only at hsame
  rw [hmap] at hsame
  obtain ⟨hroles, hmetadata, -, -, hread⟩ := hsame
  exact ⟨hroles, hmetadata, hread hstored.documented, by decide +kernel, by decide +kernel⟩

end Run

end FieldStudy
