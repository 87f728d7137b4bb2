import FieldStudy.Device.Filter
import FieldStudy.Scenario.Primitive

/-!
# Scenario definitions

A scenario is a graph of nodes. Each node names a primitive, gives it arguments and lists its
successors by the result code of the primitive.
-/

namespace FieldStudy

/-- A node of a scenario. -/
structure Node where
  primitive : PrimitiveName
  arguments : Json
  /-- The successor for each result code, if there is one. -/
  next : List (Option String)
  step : Option String
deriving BEq

namespace Node

/-- A node without arguments and successors. -/
def ofPrimitive (p : PrimitiveName) : Node := ⟨p, .obj [], [], none⟩

/-- Adds a successor for the next result code. -/
def followedBy (n : Node) (id : String) : Node := { n with next := n.next ++ [some id] }

/-- The successor for a result code; an empty name stands for none. -/
def successor? (n : Node) (result : Int) : Option String :=
  if result < 0 then none
  else match n.next[result.toNat]? with
    | some (some id) => if id.isEmpty then none else some id
    | _ => none

def decoder : Decoder Node := fun s => do
  let m ← Decoder.members? ["primitive_name", "primitive_kwargs", "next_nodes", "step"] s
  return ⟨← m.required "primitive_name" (Decoder.named false PrimitiveName.ofText?),
    ← m.withDefault "primitive_kwargs" .null Decoder.json,
    ← m.withDefault "next_nodes" [] (Decoder.list (Decoder.option Decoder.string)),
    ← m.defaultNone "step" Decoder.string⟩

def toJson (n : Node) : Json :=
  .obj ([("primitive_name", .str n.primitive.text), ("primitive_kwargs", n.arguments),
    ("next_nodes", Json.ofList (Json.ofOption .str) n.next)] ++
    Json.optionalMember "step" .str n.step)

end Node

/-- What a scenario says about itself; members of no meaning here are kept in `extra`. -/
structure ScenarioInfo where
  title : Option String := none
  description : Option String := none
  required : List Requirement := []
  extra : Dict Json := []
deriving BEq

namespace ScenarioInfo

def fieldNames : List String := ["title", "description", "required_sensor_devices"]

def decoder : Decoder ScenarioInfo := fun s => do
  let (m, extra) ← Decoder.collected? fieldNames s
  return ⟨← m.defaultNone "title" Decoder.string, ← m.defaultNone "description" Decoder.string,
    ← m.withDefault "required_sensor_devices" [] (Decoder.list Requirement.decoder), extra⟩

def toJson (i : ScenarioInfo) : Json :=
  .obj (Json.optionalMember "title" .str i.title ++
    Json.optionalMember "description" .str i.description ++
    [("required_sensor_devices", Json.ofList Requirement.toJson i.required)] ++ i.extra)

end ScenarioInfo

/-- The graph of a scenario and its texts. -/
structure ScenarioContent where
  version : Nat := 0
  nodes : Dict Node := []
  entry : String := ""
  texts : Dict String := []
  resources : Dict String := []
  steps : Dict Json := []
deriving BEq

namespace ScenarioContent

def decoder : Decoder ScenarioContent := fun s => do
  let m ← Decoder.members? ["version", "nodes", "entry_node", "texts", "resources", "steps"] s
  return ⟨← m.withDefault "version" 0 (Decoder.natural 32),
    ← m.required "nodes" (Decoder.dict Node.decoder),
    ← m.required "entry_node" Decoder.string,
    ← m.withDefault "texts" [] (Decoder.dict Decoder.string),
    ← m.withDefault "resources" [] (Decoder.dict Decoder.string),
    ← m.withDefault "steps" [] Decoder.object⟩

def toJson (c : ScenarioContent) : Json :=
  .obj [("version", .int c.version), ("nodes", Json.ofDict Node.toJson c.nodes),
    ("entry_node", .str c.entry), ("texts", Json.ofDict .str c.texts),
    ("resources", Json.ofDict .str c.resources), ("steps", .obj c.steps)]

end ScenarioContent

structure Definition where
  collectionId : Int := 0
  scenarioId : Int := 0
  info : ScenarioInfo := {}
  content : ScenarioContent
deriving BEq

namespace Definition

def decoder : Decoder Definition := fun s => do
  let m ← Decoder.members?
    ["data_collection_id", "scenario_id", "scenario_info", "scenario_content"] s
  return ⟨← m.required "data_collection_id" Decoder.int64,
    ← m.required "scenario_id" Decoder.int64,
    ← m.withDefault "scenario_info" {} ScenarioInfo.decoder,
    ← m.required "scenario_content" ScenarioContent.decoder⟩

def toJson (d : Definition) : Json :=
  .obj [("data_collection_id", .int d.collectionId), ("scenario_id", .int d.scenarioId),
    ("scenario_info", d.info.toJson), ("scenario_content", d.content.toJson)]

def node? (d : Definition) (id : String) : Option Node := d.content.nodes.get? id

/-- What is stored of a definition when it runs. -/
def snapshot (d : Definition) : Json :=
  .obj [("id", .int d.scenarioId), ("content", d.content.toJson), ("info", d.info.toJson)]

end Definition

/-- The participant of a run. -/
structure Profile where
  id : Int := 0
  extra : Dict Json := []
deriving BEq

namespace Profile

def decoder : Decoder Profile := fun s => do
  let (m, extra) ← Decoder.collected? ["profile_id"] s
  return ⟨← m.required "profile_id" Decoder.int64, extra⟩

def toJson (p : Profile) : Json := .obj (("profile_id", .int p.id) :: p.extra)

end Profile

end FieldStudy
