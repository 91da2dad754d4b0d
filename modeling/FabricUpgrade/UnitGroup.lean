import FabricUpgrade.Run
import FabricUpgrade.Status

/-!
# Upgrade unit groups

The nodes of a component are upgraded in groups.  A `UnitGroup` is a group as the manager holds it;
fields that have no meaning here are carried along, so that a group that is read, changed and
written back loses nothing.  `DeclaredGroup.applyTo` overwrites what a run may declare of a group.
-/

namespace FabricUpgrade

/-- A group as the manager holds it. -/
structure UnitGroup where
  id : String
  displayName : Option String := none
  /-- The component's name as the manager gives it, which need not be known here. -/
  type : String := ""
  enabled : Bool := false
  parallel : Bool := false
  pauseAfterEachUnit : Bool := false
  extendedConfig : Bag := []
  /-- The fields without a meaning here, as a map. -/
  other : Json.Members := []

namespace UnitGroup

/-- The names of the fields with a meaning here. -/
def fieldNames : List String :=
  ["id", "display_name", "type", "enabled", "parallel", "pause_after_each_upgrade_unit",
    "extended_configuration"]

/-- The component of the group, if it is one that is known here. -/
def component? (group : UnitGroup) : Option Component :=
  Component.ofWire? group.type

/-- Reads a group; it has to be an object. -/
def ofJson? (value : Json) : Option UnitGroup := do
  let record ← Json.objectRecord? fieldNames value
  let other ← (Json.object (value.membersOf.filter fun member => member.1 ∉ fieldNames)).carried?
  return {
    id := ← record.required "id" Json.string?
    displayName := ← record.optional "display_name" Json.string?
    type := ← record.withDefault "type" "" Json.string?
    enabled := ← record.withDefault "enabled" false Json.bool?
    parallel := ← record.withDefault "parallel" false Json.bool?
    pauseAfterEachUnit := ← record.withDefault "pause_after_each_upgrade_unit" false Json.bool?
    extendedConfig := ← record.withDefault "extended_configuration" [] Bag.ofJson?
    other := other.membersOf }

/-- Writes a group: the name for people and the bag only where there is one, the fields without a
meaning here at the end. -/
def toJson (group : UnitGroup) : Json :=
  .object ([("id", .string group.id)]
    ++ Json.memberOfOption "display_name" .string group.displayName
    ++ [("type", .string group.type), ("enabled", .bool group.enabled),
      ("parallel", .bool group.parallel),
      ("pause_after_each_upgrade_unit", .bool group.pauseAfterEachUnit)]
    ++ Json.memberOfList "extended_configuration" BagEntry.toJson group.extendedConfig
    ++ group.other)

end UnitGroup

/-- Overwrites the declared options of a group.  Edge groups keep the manager's `parallel`; host
groups get the declared host options, or the default ones where none are declared. -/
def DeclaredGroup.applyTo (declared : DeclaredGroup) (component : Component) (group : UnitGroup) :
    UnitGroup :=
  { group with
    enabled := declared.enabled
    pauseAfterEachUnit := declared.pauseAfterEachUnit
    parallel := if component = .edge then group.parallel else declared.parallel
    extendedConfig :=
      if component = .host then (declared.hostConfig.getD {}).applyTo group.extendedConfig
      else group.extendedConfig }

/-- Where a group is to be put: in front of another group or behind it. -/
structure Placement where
  anchor : String
  isBefore : Bool
deriving DecidableEq, Repr

namespace Placement

/-- The place right behind a group. -/
def after (anchor : String) : Placement :=
  ⟨anchor, false⟩

/-- The place right in front of a group. -/
def before (anchor : String) : Placement :=
  ⟨anchor, true⟩

/-- Reads a placement. -/
def ofJson? (value : Json) : Option Placement := do
  let record ← Json.record? ["id", "is_before"] value
  return {
    anchor := ← record.required "id" Json.string?
    isBefore := ← record.required "is_before" Json.bool? }

/-- Writes a placement. -/
def toJson (placement : Placement) : Json :=
  .object [("id", .string placement.anchor), ("is_before", .bool placement.isBefore)]

end Placement

/-- The upgrade status of one group. -/
structure GroupStatus where
  groupId : String
  groupName : String := ""
  status : Status
deriving DecidableEq, Repr

namespace GroupStatus

/-- Reads the status of a group. -/
def ofJson? (value : Json) : Option GroupStatus := do
  let record ← Json.record? ["group_id", "group_name", "status"] value
  return {
    groupId := ← record.required "group_id" Json.string?
    groupName := ← record.withDefault "group_name" "" Json.string?
    status := ← record.required "status" Status.ofJson? }

/-- Writes the status of a group. -/
def toJson (status : GroupStatus) : Json :=
  .object [("group_id", .string status.groupId), ("group_name", .string status.groupName),
    ("status", status.status.toJson)]

end GroupStatus

end FabricUpgrade
