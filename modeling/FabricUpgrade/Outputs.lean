import FabricUpgrade.UnitGroup

/-!
# Reported outputs

What is reported of a fabric: its groups as they are planned now, and the state of every component
with its groups.
-/

namespace FabricUpgrade

/-- A group as it is planned now. -/
structure PlanEntry where
  id : String
  type : String
  enabled : Bool
  parallel : Bool
  pauseAfterEachUnit : Bool
  /-- The extended configuration as a map in the order of its keys. -/
  extendedConfig : List (String × String) := []
deriving DecidableEq, Repr

namespace PlanEntry

/-- The entry of a group. -/
def ofGroup (group : UnitGroup) : PlanEntry where
  id := group.id
  type := group.type
  enabled := group.enabled
  parallel := group.parallel
  pauseAfterEachUnit := group.pauseAfterEachUnit
  extendedConfig := group.extendedConfig.toMap

/-- Reads a map from strings to strings. -/
def mapOfJson? (value : Json) : Option (List (String × String)) :=
  (Json.entries? Json.string? value).map SortedMap.ofEntries

/-- Reads the entry of a group. -/
def ofJson? (value : Json) : Option PlanEntry := do
  let record ← Json.record?
    ["id", "type", "enabled", "parallel", "pauseAfterEachUpgradeUnit", "extendedConfig"] value
  return {
    id := ← record.required "id" Json.string?
    type := ← record.required "type" Json.string?
    enabled := ← record.required "enabled" Json.bool?
    parallel := ← record.required "parallel" Json.bool?
    pauseAfterEachUnit := ← record.required "pauseAfterEachUpgradeUnit" Json.bool?
    extendedConfig := ← record.withDefault "extendedConfig" [] mapOfJson? }

/-- Writes the entry of a group. -/
def toJson (entry : PlanEntry) : Json :=
  .object ([("id", .string entry.id), ("type", .string entry.type),
      ("enabled", .bool entry.enabled), ("parallel", .bool entry.parallel),
      ("pauseAfterEachUpgradeUnit", .bool entry.pauseAfterEachUnit)]
    ++ if entry.extendedConfig.isEmpty then []
      else [("extendedConfig", Json.ofMap entry.extendedConfig)])

end PlanEntry

/-- The state of a group. -/
structure GroupState where
  groupId : String
  groupName : String
  status : Status
deriving DecidableEq, Repr

namespace GroupState

/-- The state that a status reports. -/
def ofStatus (status : GroupStatus) : GroupState :=
  ⟨status.groupId, status.groupName, status.status⟩

/-- Reads the state of a group. -/
def ofJson? (value : Json) : Option GroupState := do
  let record ← Json.record? ["groupId", "groupName", "status"] value
  return {
    groupId := ← record.required "groupId" Json.string?
    groupName := ← record.required "groupName" Json.string?
    status := ← record.required "status" Status.ofJson? }

/-- Writes the state of a group. -/
def toJson (state : GroupState) : Json :=
  .object [("groupId", .string state.groupId), ("groupName", .string state.groupName),
    ("status", state.status.toJson)]

end GroupState

/-- The state of a component and of its groups. -/
structure ComponentState where
  type : String
  status : Status
  details : Option String := none
  targetVersion : Option String := none
  groupStates : List GroupState := []
deriving DecidableEq, Repr

namespace ComponentState

/-- Reads the state of a component. -/
def ofJson? (value : Json) : Option ComponentState := do
  let record ← Json.record? ["type", "status", "details", "targetVersion", "groupStates"] value
  return {
    type := ← record.required "type" Json.string?
    status := ← record.required "status" Status.ofJson?
    details := ← record.optional "details" Json.string?
    targetVersion := ← record.optional "targetVersion" Json.string?
    groupStates := ← record.withDefault "groupStates" [] (Json.list? GroupState.ofJson?) }

/-- Writes the state of a component. -/
def toJson (state : ComponentState) : Json :=
  .object ([("type", .string state.type), ("status", state.status.toJson)]
    ++ Json.memberOfOption "details" .string state.details
    ++ Json.memberOfOption "targetVersion" .string state.targetVersion
    ++ [("groupStates", .array (state.groupStates.map GroupState.toJson))])

end ComponentState

/-- All that is reported of a fabric. -/
structure Outputs where
  plan : List PlanEntry := []
  state : List ComponentState := []
deriving DecidableEq, Repr

namespace Outputs

/-- The first state of a component. -/
def find? (outputs : Outputs) (component : Component) : Option ComponentState :=
  outputs.state.find? fun state => state.type = component.wire

/-- Reads outputs. -/
def ofJson? (value : Json) : Option Outputs := do
  let record ← Json.record? ["upgradeGroupPlan", "state"] value
  return {
    plan := ← record.withDefault "upgradeGroupPlan" [] (Json.list? PlanEntry.ofJson?)
    state := ← record.withDefault "state" [] (Json.list? ComponentState.ofJson?) }

/-- Writes outputs. -/
def toJson (outputs : Outputs) : Json :=
  .object [("upgradeGroupPlan", .array (outputs.plan.map PlanEntry.toJson)),
    ("state", .array (outputs.state.map ComponentState.toJson))]

end Outputs

end FabricUpgrade
