import Mathlib.Data.List.Basic
import Mathlib.Tactic.Common
import FieldStudy.Proofs.Json.Trees
import FieldStudy.Proofs.Scenario.Metadata
import FieldStudy.Scenario.Definition

/-!
# Documents that are stored

A definition is decoded again from what it is encoded as: members that are left out are absent again, null stands where
null stood, and the members that `ScenarioInfo` collects are collected once more, as none of them bears the name of a
field (`Definition.decoder_ofJson`).  What is decoded fulfils the conditions for that
(`Definition.storable_of_decoder`).  The same holds of the metadata, which are saved in a file and loaded from it
(`documents_survive_storage`).

That a text is read as the document that was printed is not part of this: it is a matter of the numbers in it.
-/

namespace FieldStudy

open Source Decoder

/-! ## Names -/

lemma PrimitiveName.ofText?_text (p : PrimitiveName) : ofText? p.text = some p := by
  cases p <;> decide +kernel

lemma DeviceType.ofText?_text (t : DeviceType) : ofText? t.text = some t := by
  cases t <;> decide +kernel

lemma Decoder.named_ofJson {α : Type} {find : String → Option α} {s : String} {a : α} (h : find s = some a)
    (emptyToo : Bool) : named emptyToo find (ofJson (.str s)) = some a :=
  h

lemma Decoder.string_ofJson (s : String) : string (ofJson (.str s)) = some s := rfl

lemma Decoder.option_string_ofJson (s : Option String) :
    option string (ofJson (Json.ofOption .str s)) = some s := by
  cases s <;> rfl

/-! ## The parts of a definition -/

namespace Requirement

def members (r : Requirement) : List (String × Json) :=
  [("sensor_device_type", r.type.toJson), ("required_sensors", Json.ofList .str r.sensors)]

lemma toJson_eq (r : Requirement) : r.toJson = .obj r.members := rfl

lemma sublist_members (r : Requirement) :
    (r.members.map (·.1)).Sublist ["sensor_device_type", "required_sensors"] :=
  List.Sublist.refl _

lemma decoder_ofJson (r : Requirement) : decoder (ofJson r.toJson) = some r := by
  have htype : (given r.members).required "sensor_device_type" (named false DeviceType.ofText?) = some r.type :=
    (required_given rfl).trans (named_ofJson r.type.ofText?_text false)
  have hsensors : (given r.members).withDefault "required_sensors" [] (list string) = some r.sensors :=
    (withDefault_given rfl []).trans (list_ofJson fun s _ => string_ofJson s)
  rw [decoder, Option.bind_eq_bind, toJson_eq, bind_members? (by decide) r.sublist_members, htype, hsensors]
  rfl

end Requirement

namespace Node

/-- The objects in the arguments have their keys in order. -/
def Storable (n : Node) : Prop := n.arguments.isOrdered = true

instance (n : Node) : Decidable n.Storable := inferInstanceAs (Decidable (n.arguments.isOrdered = true))

def members (n : Node) : List (String × Json) :=
  [("primitive_name", .str n.primitive.text), ("primitive_kwargs", n.arguments),
    ("next_nodes", Json.ofList (Json.ofOption .str) n.next)] ++ Json.optionalMember "step" .str n.step

lemma toJson_eq (n : Node) : n.toJson = .obj n.members := rfl

lemma sublist_members (n : Node) :
    (n.members.map (·.1)).Sublist ["primitive_name", "primitive_kwargs", "next_nodes", "step"] := by
  rw [members, List.map_append]
  exact (List.Sublist.refl _).append (sublist_optionalMember _ _ _)

lemma decoder_ofJson {n : Node} (h : n.Storable) : decoder (ofJson n.toJson) = some n := by
  have hprimitive : (given n.members).required "primitive_name" (named false PrimitiveName.ofText?) =
      some n.primitive :=
    (required_given rfl).trans (named_ofJson n.primitive.ofText?_text false)
  have harguments : (given n.members).withDefault "primitive_kwargs" .null json = some n.arguments := by
    rw [withDefault_given (v := n.arguments) rfl, json, value?_ofJson, Json.canonical_of_isOrdered _ h]
  have hnext : (given n.members).withDefault "next_nodes" [] (list (option string)) = some n.next :=
    (withDefault_given rfl []).trans (list_ofJson fun s _ => option_string_ofJson s)
  have hstep : (given n.members).defaultNone "step" string = some n.step :=
    defaultNone_given (get?_optionalMember "step" Json.str n.step "step") fun _ _ => rfl
  rw [decoder, Option.bind_eq_bind, toJson_eq, bind_members? (by decide) n.sublist_members, hprimitive, harguments,
    hnext, hstep]
  rfl

lemma storable_of_decoder {source : Source} {n : Node} (h : decoder source = some n) : n.Storable := by
  obtain ⟨m, -, h⟩ := Option.bind_eq_some_iff.mp h
  obtain ⟨primitive, -, h⟩ := Option.bind_eq_some_iff.mp h
  obtain ⟨arguments, harguments, h⟩ := Option.bind_eq_some_iff.mp h
  obtain ⟨next, -, h⟩ := Option.bind_eq_some_iff.mp h
  obtain ⟨step, -, h⟩ := Option.bind_eq_some_iff.mp h
  obtain rfl := Option.some.inj h
  obtain rfl | ⟨s, hs⟩ := default_or_exists harguments
  · rfl
  · exact isOrdered_of_value? s arguments hs

end Node

namespace ScenarioInfo

/-- The collected members have their keys in order, and none of them bears the name of a field. -/
@[mk_iff]
structure Storable (i : ScenarioInfo) : Prop where
  ordered : (Json.obj i.extra).isOrdered = true
  apart : ∀ p ∈ i.extra, p.1 ∉ fieldNames

instance (i : ScenarioInfo) : Decidable i.Storable := decidable_of_iff' _ i.storable_iff

/-- The members that are fields. -/
def members (i : ScenarioInfo) : List (String × Json) :=
  Json.optionalMember "title" .str i.title ++ Json.optionalMember "description" .str i.description ++
    [("required_sensor_devices", Json.ofList Requirement.toJson i.required)]

lemma toJson_eq (i : ScenarioInfo) : i.toJson = .obj (i.members ++ i.extra) := rfl

lemma sublist_members (i : ScenarioInfo) : (i.members.map (·.1)).Sublist fieldNames := by
  rw [members, List.map_append, List.map_append]
  exact ((sublist_optionalMember _ _ _).append (sublist_optionalMember _ _ _)).append (List.Sublist.refl _)

lemma get?_members (i : ScenarioInfo) (name : String) : Dict.get? i.members name =
    ((if "title" = name then i.title.map .str else none).or
      (if "description" = name then i.description.map .str else none)).or
        (if "required_sensor_devices" = name then some (Json.ofList Requirement.toJson i.required) else none) := by
  simp only [members, Dict.get?_append, get?_optionalMember]
  rfl

lemma decoder_ofJson {i : ScenarioInfo} (h : i.Storable) : decoder (ofJson i.toJson) = some i := by
  have htitle : (given i.members).defaultNone "title" string = some i.title :=
    defaultNone_given (f := Json.str) (by simp [get?_members]) fun _ _ => rfl
  have hdescription : (given i.members).defaultNone "description" string = some i.description :=
    defaultNone_given (f := Json.str) (by simp [get?_members]) fun _ _ => rfl
  have hrequired : (given i.members).withDefault "required_sensor_devices" [] (list Requirement.decoder) =
      some i.required :=
    (withDefault_given (by simp [get?_members]) []).trans (list_ofJson fun r _ => r.decoder_ofJson)
  rw [decoder, Option.bind_eq_bind, toJson_eq, bind_collected? (by decide) i.sublist_members h.apart h.ordered]
  dsimp only
  rw [htitle, hdescription, hrequired]
  rfl

lemma storable_of_decoder {source : Source} {i : ScenarioInfo} (h : decoder source = some i) : i.Storable := by
  obtain ⟨⟨m, extra⟩, hcollected, h⟩ := Option.bind_eq_some_iff.mp h
  obtain ⟨title, -, h⟩ := Option.bind_eq_some_iff.mp h
  obtain ⟨description, -, h⟩ := Option.bind_eq_some_iff.mp h
  obtain ⟨required, -, h⟩ := Option.bind_eq_some_iff.mp h
  obtain rfl := Option.some.inj h
  exact ⟨(table_of_collected? hcollected).1, (table_of_collected? hcollected).2⟩

end ScenarioInfo

namespace ScenarioContent

/-- The version has 32 bits, and all tables have their keys in order. -/
@[mk_iff]
structure Storable (c : ScenarioContent) : Prop where
  version : c.version < Nat.pow 2 32
  nodes : c.nodes.Sorted ∧ ∀ p ∈ c.nodes, p.2.Storable
  texts : c.texts.Sorted
  resources : c.resources.Sorted
  steps : (Json.obj c.steps).isOrdered = true

instance (c : ScenarioContent) : Decidable c.Storable := decidable_of_iff' _ c.storable_iff

def members (c : ScenarioContent) : List (String × Json) :=
  [("version", .int c.version), ("nodes", Json.ofDict Node.toJson c.nodes), ("entry_node", .str c.entry),
    ("texts", Json.ofDict .str c.texts), ("resources", Json.ofDict .str c.resources), ("steps", .obj c.steps)]

lemma toJson_eq (c : ScenarioContent) : c.toJson = .obj c.members := rfl

lemma sublist_members (c : ScenarioContent) :
    (c.members.map (·.1)).Sublist ["version", "nodes", "entry_node", "texts", "resources", "steps"] :=
  List.Sublist.refl _

lemma decoder_ofJson {c : ScenarioContent} (h : c.Storable) : decoder (ofJson c.toJson) = some c := by
  have hversion : (given c.members).withDefault "version" 0 (natural 32) = some c.version :=
    (withDefault_given rfl 0).trans (natural_ofJson h.version)
  have hnodes : (given c.members).required "nodes" (dict Node.decoder) = some c.nodes :=
    (required_given rfl).trans (dict_ofJson h.nodes.1 fun p hp => Node.decoder_ofJson (h.nodes.2 p hp))
  have hentry : (given c.members).required "entry_node" string = some c.entry :=
    (required_given rfl).trans (string_ofJson c.entry)
  have htexts : (given c.members).withDefault "texts" [] (dict string) = some c.texts :=
    (withDefault_given rfl []).trans (dict_ofJson h.texts fun p _ => string_ofJson p.2)
  have hresources : (given c.members).withDefault "resources" [] (dict string) = some c.resources :=
    (withDefault_given rfl []).trans (dict_ofJson h.resources fun p _ => string_ofJson p.2)
  have hsteps : (given c.members).withDefault "steps" [] object = some c.steps :=
    (withDefault_given rfl []).trans (object_ofJson h.steps)
  rw [decoder, Option.bind_eq_bind, toJson_eq, bind_members? (by decide) c.sublist_members, hversion, hnodes, hentry,
    htexts, hresources, hsteps]
  rfl

lemma storable_of_decoder {source : Source} {c : ScenarioContent} (h : decoder source = some c) : c.Storable := by
  obtain ⟨m, -, h⟩ := Option.bind_eq_some_iff.mp h
  obtain ⟨version, hversion, h⟩ := Option.bind_eq_some_iff.mp h
  obtain ⟨nodes, hnodes, h⟩ := Option.bind_eq_some_iff.mp h
  obtain ⟨entry, -, h⟩ := Option.bind_eq_some_iff.mp h
  obtain ⟨texts, htexts, h⟩ := Option.bind_eq_some_iff.mp h
  obtain ⟨resources, hresources, h⟩ := Option.bind_eq_some_iff.mp h
  obtain ⟨steps, hsteps, h⟩ := Option.bind_eq_some_iff.mp h
  obtain rfl := Option.some.inj h
  have hsorted {table : Dict String} {name : String} (h : m.withDefault name [] (dict string) = some table) :
      table.Sorted := by
    obtain rfl | ⟨s, hs⟩ := default_or_exists h
    · exact Dict.sorted_nil
    · exact (table_of_dict hs).1
  obtain ⟨s, hs⟩ := exists_of_required hnodes
  obtain ⟨hnodesSorted, hread⟩ := table_of_dict hs
  refine ⟨?_, ⟨hnodesSorted, fun p hp => ?_⟩, hsorted htexts, hsorted hresources, ?_⟩
  · obtain rfl | ⟨s, hs⟩ := default_or_exists hversion
    · exact Nat.pow_pos Nat.two_pos
    · exact lt_of_natural hs
  · obtain ⟨s, hs⟩ := hread p hp
    exact Node.storable_of_decoder hs
  · obtain rfl | ⟨s, hs⟩ := default_or_exists hsteps
    · rfl
    · exact isOrdered_of_object hs

end ScenarioContent

namespace Definition

/-! ## Definitions -/

/-- Numbers are in their ranges, tables have their keys in order, and what `info` collects is apart from its fields. -/
@[mk_iff]
structure Storable (d : Definition) : Prop where
  identifiers : IsInt64 d.collectionId ∧ IsInt64 d.scenarioId
  info : d.info.Storable
  content : d.content.Storable

instance (d : Definition) : Decidable d.Storable := decidable_of_iff' _ d.storable_iff

def members (d : Definition) : List (String × Json) :=
  [("data_collection_id", .int d.collectionId), ("scenario_id", .int d.scenarioId), ("scenario_info", d.info.toJson),
    ("scenario_content", d.content.toJson)]

lemma toJson_eq (d : Definition) : d.toJson = .obj d.members := rfl

lemma sublist_members (d : Definition) : (d.members.map (·.1)).Sublist
    ["data_collection_id", "scenario_id", "scenario_info", "scenario_content"] :=
  List.Sublist.refl _

lemma decoder_ofJson {d : Definition} (h : d.Storable) : decoder (ofJson d.toJson) = some d := by
  obtain ⟨hcollection, hscenario⟩ := h.identifiers
  have hcollectionId : (given d.members).required "data_collection_id" int64 = some d.collectionId :=
    (required_given rfl).trans (int64_ofJson hcollection)
  have hscenarioId : (given d.members).required "scenario_id" int64 = some d.scenarioId :=
    (required_given rfl).trans (int64_ofJson hscenario)
  have hinfo : (given d.members).withDefault "scenario_info" {} ScenarioInfo.decoder = some d.info :=
    (withDefault_given rfl _).trans (ScenarioInfo.decoder_ofJson h.info)
  have hcontent : (given d.members).required "scenario_content" ScenarioContent.decoder = some d.content :=
    (required_given rfl).trans (ScenarioContent.decoder_ofJson h.content)
  rw [decoder, Option.bind_eq_bind, toJson_eq, bind_members? (by decide) d.sublist_members, hcollectionId,
    hscenarioId, hinfo, hcontent]
  rfl

lemma storable_of_decoder {source : Source} {d : Definition} (h : decoder source = some d) : d.Storable := by
  obtain ⟨m, -, h⟩ := Option.bind_eq_some_iff.mp h
  obtain ⟨collectionId, hcollection, h⟩ := Option.bind_eq_some_iff.mp h
  obtain ⟨scenarioId, hscenario, h⟩ := Option.bind_eq_some_iff.mp h
  obtain ⟨info, hinfo, h⟩ := Option.bind_eq_some_iff.mp h
  obtain ⟨content, hcontent, h⟩ := Option.bind_eq_some_iff.mp h
  obtain rfl := Option.some.inj h
  obtain ⟨s₁, hs₁⟩ := exists_of_required hcollection
  obtain ⟨s₂, hs₂⟩ := exists_of_required hscenario
  obtain ⟨s₃, hs₃⟩ := exists_of_required hcontent
  refine ⟨⟨isInt64_of_int64 hs₁, isInt64_of_int64 hs₂⟩, ?_, ScenarioContent.storable_of_decoder hs₃⟩
  obtain rfl | ⟨s, hs⟩ := default_or_exists hinfo
  · exact ⟨rfl, List.forall_mem_nil _⟩
  · exact ScenarioInfo.storable_of_decoder hs

end Definition

/-! ## Storage -/

/-- A definition is decoded from what it is encoded as, and so it is from every text that is read as that, provided that
no member that is collected bears the name of a field; every definition that has been decoded is of this kind.  Metadata
are loaded from the file that they were saved in, provided that the text in it is read as what was printed.

The numbers of both are in the ranges of their types, and the tables hold each key once, in order. -/
theorem documents_survive_storage :
    (∀ d : Definition, d.Storable → decodeValue? Definition.decoder d.toJson = some d ∧
      ∀ text, read? text = some (ofJson d.toJson) → decodeText Definition.decoder text = .ok d) ∧
    (∀ source d, Definition.decoder source = some d → d.Storable) ∧
    ∀ (m : Metadata) (folder : Path) (files files' : FileStore), m.Storable → files.Numbered →
      m.save folder files = .ok files' → read? m.text = some (ofJson m.toJson) →
      Metadata.load folder files' = .ok m := by
  refine ⟨fun d hd => ⟨Definition.decoder_ofJson hd, fun text hread => ?_⟩,
    fun source d => Definition.storable_of_decoder, fun m folder files files' hm hfiles hsave hread => ?_⟩
  · rw [decodeText, hread, Option.bind_some, Definition.decoder_ofJson hd]
  · exact Metadata.load_of_read hm hread (Metadata.read?_of_save hfiles hsave)

/-- A definition with gaps among its successors, nulls among its arguments and a member of no meaning, and the metadata
of a run of it that was aborted without a message. -/
theorem documents_survive_storage_gaps :
    let node : Node := ⟨.waitOption, .obj [("msg", .null), ("options", .arr [.str "a", .null])], [none, some "b"], none⟩
    let d : Definition :=
      { scenarioId := 7
        info := { title := some "walk", extra := [("language", .null), ("tags", .arr [.int 1])] }
        content := { entry := "a", nodes := [("a", node), ("b", Node.ofPrimitive .nop)], texts := [("k", "v")] } }
    let m : Metadata :=
      { Metadata.initial d {} {} with
        startTime := some 5, records := [("r", ⟨"r.bin", 6⟩)], abort := some ⟨"lost", none⟩ }
    decodeText Definition.decoder d.toJson.pretty = .ok d ∧
      ∃ files, m.save [] {} = .ok files ∧ Metadata.load [] files = .ok m := by
  intro node d m
  obtain ⟨hdefinition, -, hmetadata⟩ := documents_survive_storage
  obtain ⟨files, hsave⟩ : ∃ files, m.save [] {} = .ok files := Metadata.exists_of_save (by decide +kernel)
  refine ⟨(hdefinition d (by decide +kernel)).2 _ (read?_pretty (by decide +kernel)), files, hsave, ?_⟩
  exact hmetadata m [] {} files (by decide +kernel) (FileStore.numbered_of_entries rfl) hsave
    (read?_pretty (by decide +kernel))

end FieldStudy
