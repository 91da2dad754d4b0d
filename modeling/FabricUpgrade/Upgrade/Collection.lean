import FabricUpgrade.Outputs
import FabricUpgrade.Upgrade.Session

/-!
# Collecting the outputs

The groups are listed, the summary is read, and the status of the groups is asked for each component
of the summary that is known here.  The first call that fails ends the collection.
-/

namespace FabricUpgrade.Outputs

/-- The group states of a component, by the type that the summary gives it. -/
def collectGroupStates (type : String) : Procedure (List GroupState) := do
  match Component.ofWire? type with
  | none => return []
  | some component =>
    let statuses ← Procedure.perform (.getGroupStatus component) (some component) none
    return (show List GroupStatus from statuses).map GroupState.ofStatus

/-- The states of the components of a summary. -/
def collectStates : List ComponentRecord → Procedure (List ComponentState)
  | [] => return []
  | record :: rest => do
    let groupStates ← collectGroupStates record.type
    let state : ComponentState :=
      { type := record.type, status := record.status, details := record.details,
        targetVersion := record.targetVersion, groupStates }
    return state :: (← collectStates rest)

/-- Collects everything that is reported of a fabric. -/
def collect : Procedure Outputs := do
  let groups ← Procedure.perform (.listGroups none) none none
  let summary ← Procedure.perform (.getStatus none) none none
  let state ← collectStates (show Summary from summary).components
  return { plan := (show List UnitGroup from groups).map PlanEntry.ofGroup, state }

end FabricUpgrade.Outputs
