import FieldStudy.Run.Basic
import FieldStudy.Text.Split

/-!
# Roles

Devices are bound to roles, and the configuration of each role is repeated in the metadata.
-/

namespace FieldStudy

/-- Whether a role is among those that an action names; without names it is for all roles. -/
def isTargeted (names : Option (List String)) (role : String) : Bool := names.all (·.contains role)

/-- A configuration from pairs. A key with points names a setting of a sensor: its part behind the last point is
the setting. -/
def configObject (pairs : List (String × Json)) : Dict Json :=
  pairs.foldl (fun config (key, value) =>
    match Text.splitLast '.' key.toList with
    | some (sensor, setting) =>
      let sensor := String.ofList sensor
      let settings := ((config.get? sensor).bind Json.members?).getD []
      config.insert sensor (.obj (Dict.insert settings (String.ofList setting) value))
    | none => config.insert key value) []

namespace Run

/-- The bindings of the targeted roles. -/
def targets (r : Run) (names : Option (List String)) : List RoleBinding :=
  r.roles.values.filter fun b => isTargeted names b.role

/-- Merges settings into the configuration of each targeted role and into its copy in the metadata. -/
def mergeRoles (r : Run) (names : Option (List String)) (values : Dict Json) : Run :=
  { r with
    roles := r.roles.mapValues fun b =>
      if isTargeted names b.role then { b with config := mergeConfig b.config values } else b
    metadata := (r.targets names).foldl (fun m b => m.mergeRoleConfig b.role values) r.metadata }

/-- The named settings that a configuration has. -/
def pickConfig (config : Dict Json) (keys : List String) : Dict Json :=
  Dict.ofList (keys.filterMap fun key => (config.get? key).map (key, ·))

/-- Merges the named settings of each targeted role into the metadata. -/
def dumpConfig (r : Run) (names : Option (List String)) (keys : List String) : Run :=
  r.updateMetadata fun m =>
    (r.targets names).foldl (fun m b => m.mergeRoleConfig b.role (pickConfig b.config keys)) m

/-- Binds a device to a role, with an empty configuration, and keeps its description. -/
def bind (r : Run) (s : Setup) (d : Device) (role : String) : Outcome × Run :=
  match s.backend.deviceInfo r.calls d with
  | .error e => (.fails e, r)
  | .ok info =>
    { r with
      roles := r.roles.insert role ⟨role, d, []⟩
      metadata := { r.metadata with deviceInfo := r.metadata.deviceInfo.insert role info } }.savedWith
        s 0

/-- The role that a device is bound to unless the scenario names one. -/
def defaultRole : String := "main"

/-- Chooses a device. Of several that suit, the host chooses one; if none suits, the code is 1. -/
def select (r : Run) (s : Setup) (a : SelectArguments) : Outcome × Run :=
  let role := a.role.getD defaultRole
  match a.filter.select s.available with
  | [] => (.done 1, r)
  | [d] => r.bind s d role
  | candidates =>
    let (id, r) := r.prompt fun id =>
      .choice id ⟨none, a.prompt.map s.format, candidates.map (·.type.text)⟩
    (.waits (.prompt id) (.bind candidates role), r)

/-- Binds the device of the chosen index; an index out of range gives the code 1. -/
def bindChosen (r : Run) (s : Setup) (candidates : List Device) (role : String) (index : Int) :
    Outcome × Run :=
  match if index < 0 then none else candidates[index.toNat]? with
  | some d => r.bind s d role
  | none => (.done 1, r)

end Run

end FieldStudy
