import FabricUpgrade.Run

/-!
# Plan settings

The manager holds settings for the upgrade plan of each component.  As with groups, fields without a
meaning here are carried along.
-/

namespace FabricUpgrade

/-- The plan settings of a component as the manager holds them. -/
structure PlanSettings where
  parallel : Option Bool := none
  pauseOnError : Option Bool := none
  /-- The fields without a meaning here, as a map. -/
  other : Json.Members := []

namespace PlanSettings

/-- The names of the fields with a meaning here. -/
def fieldNames : List String :=
  ["parallel", "pause_on_error"]

/-- Reads plan settings; they have to be an object. -/
def ofJson? (value : Json) : Option PlanSettings := do
  let record ← Json.objectRecord? fieldNames value
  let other ← (Json.object (value.membersOf.filter fun member => member.1 ∉ fieldNames)).carried?
  return {
    parallel := ← record.optional "parallel" Json.bool?
    pauseOnError := ← record.optional "pause_on_error" Json.bool?
    other := other.membersOf }

/-- Writes plan settings, the fields without a meaning here at the end. -/
def toJson (settings : PlanSettings) : Json :=
  .object (Json.memberOfOption "parallel" .bool settings.parallel
    ++ Json.memberOfOption "pause_on_error" .bool settings.pauseOnError ++ settings.other)

end PlanSettings

/-- Overwrites the declared settings.  Edge nodes always pause on an error, so theirs never say. -/
def DeclaredSettings.applyTo (declared : DeclaredSettings) (component : Component)
    (settings : PlanSettings) : PlanSettings :=
  { settings with
    parallel := some declared.parallel
    pauseOnError := if component = .edge then none else some declared.stopOnError }

end FabricUpgrade
