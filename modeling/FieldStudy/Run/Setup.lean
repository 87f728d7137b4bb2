import FieldStudy.Run.Backend
import FieldStudy.Scenario.Metadata
import FieldStudy.Text.Placeholder

/-!
# Setup of a run

What is fixed before a scenario runs and does not change while it does.
-/

namespace FieldStudy

/-- An order in which a set is drained. A set has no order of its own. -/
structure Drain (α : Type) where
  order : List α → List α
  perm : ∀ as, (order as).Perm as

/-- The members are taken in the order in which they are listed. -/
def Drain.inOrder : Drain α := ⟨id, List.Perm.refl⟩

/-- The orders in which runs drain the sets of what runs on their devices, by the token under which they stop. -/
structure Drains where
  listeners : Nat → Drain (String × String) := fun _ => .inOrder
  mics : Nat → Drain String := fun _ => .inOrder

structure Setup where
  definition : Definition
  /-- The folder that holds the files of the run. -/
  folder : Path
  profile : Profile := {}
  config : Config := {}
  /-- The devices that a scenario may choose from. -/
  available : List Device := []
  /-- The devices that are bound before the run. -/
  preselected : List Device := []
  backend : Backend := .none
  drains : Drains := {}

namespace Setup

/-- The metadata that every run begins with. -/
def metadata (s : Setup) : Metadata := Metadata.initial s.definition s.profile s.config

/-- The bindings that every run begins with. The role of a device is its type; of several of one type the last
one stays. -/
def roles (s : Setup) : Dict RoleBinding :=
  Dict.ofList (s.preselected.map fun d => (d.type.text, ⟨d.type.text, d, []⟩))

def entry (s : Setup) : String := s.definition.content.entry

/-! ## Texts -/

/-- Replaces the placeholders of one kind whose key is in a table. -/
def substitute (opening : String) (table : Dict String) (cs : List Char) : List Char :=
  Text.substitute opening.toList (fun key => (table.get? (String.ofList key)).map String.toList) cs

/-- Puts in the texts that placeholders name, and then the resources. Placeholders with unknown keys are kept as
written. -/
def format (s : Setup) (text : String) : String :=
  let content := s.definition.content
  String.ofList (substitute "$\x7brsr:" content.resources
    (substitute "$\x7btxt:" content.texts text.toList))

end Setup

end FieldStudy
