import Mathlib.Logic.Function.Basic
import FabricUpgrade.Proofs.Interruption
import FabricUpgrade.Simulation.Fabric

/-!
# A fabric that follows its scripts

A `Plant` is a fabric on which nothing goes wrong but what its scripts say.  Each of its parts is one
component: a status request about it takes one step of its script, a launch installs its upgrade
script, and a pause makes it pausing and then paused.  The status of the whole upgrade follows from
those of the parts.  `Plant.world` is the world in which such a plant answers, with a clock that moves
only while the run pauses.
-/

namespace FabricUpgrade

open Program Session

/-- One component of a plant. -/
structure Part where
  status : Status := .notStarted
  details : Option String := none
  /-- What the next status requests will show. -/
  script : List Status := []
  /-- What they will show after the component was launched. -/
  upgradeScript : List Status := [.inProgress, .success]

namespace Part

/-- One step of the script is taken. -/
def advanced (part : Part) : Part :=
  match part.script with
  | [] => part
  | status :: script => { part with status, script }

/-- A part in progress is made to pause. -/
def pausing (part : Part) : Part :=
  if part.status = .inProgress then { part with status := .pausing, script := [.paused] } else part

/-- A part that is paused or has failed is brought back to the start. -/
def reset (part : Part) : Part :=
  if part.status = .paused ∨ part.status = .failed then { part with status := .notStarted } else part

/-- The upgrade of the part is launched. -/
def launched (part : Part) : Part :=
  { part with status := .inProgress, script := part.upgradeScript }

/-- What is seen of the part. -/
def observation (part : Part) : Observation :=
  ⟨part.status, part.details.getD ""⟩

/-- What a summary says of the part. -/
def record (component : Component) (part : Part) : ComponentRecord :=
  ⟨component.wire, part.status, part.details, some "4.2.1.0.0"⟩

end Part

/-- The parts of a plant. -/
abbrev Parts : Type :=
  Component → Part

namespace Parts

/-- Nothing is at work. -/
def Rest (parts : Parts) : Prop :=
  ∀ component, (parts component).status.isInFlight = false

/-- The status of the whole upgrade. -/
def overall (parts : Parts) : Status :=
  if Component.ordered.any fun component => (parts component).status.isInFlight then .inProgress
  else if Component.ordered.all fun component => (parts component).status = .success then .success
  else .notStarted

/-- A summary of some of the parts. -/
def summary (parts : Parts) (shown : List Component) : Summary :=
  ⟨parts.overall, shown.map fun component => (parts component).record component⟩

/-- One part is changed. -/
def change (parts : Parts) (component : Component) (change : Part → Part) : Parts :=
  Function.update parts component (change (parts component))

@[simp]
theorem change_same (parts : Parts) (component : Component) (change : Part → Part) :
    parts.change component change component = change (parts component) :=
  Function.update_self _ _ _

/-- Changing one part leaves the others as they are. -/
theorem change_of_ne {component other : Component} (differs : other ≠ component) (parts : Parts)
    (change : Part → Part) : parts.change component change other = parts other :=
  Function.update_of_ne differs _ _

/-- Of a part that is reset and launched only the launch is left. -/
theorem change_launched_reset (parts : Parts) (component : Component) :
    (parts.change component Part.reset).change component Part.launched =
      parts.change component Part.launched := by
  have same : (parts component).reset.launched = (parts component).launched := by
    rw [Part.reset]
    split <;> rfl
  rw [change, change_same, same]
  exact Function.update_idem _ _ _

/-- Every part in progress is made to pause. -/
def pausing (parts : Parts) : Parts :=
  fun component => (parts component).pausing

end Parts

/-- A fabric without faults. -/
structure Plant where
  part : Parts
  groups : List UnitGroup := []
  settings : Component → PlanSettings := fun _ => {}

namespace Plant

/-- The complaint about a group that is not there. -/
def noGroup (id : String) : ManagerError :=
  .notFound s!"upgrade unit group {id}"

/-- The ids of the groups in their order. -/
def ids (plant : Plant) : List String :=
  plant.groups.map UnitGroup.id

/-- Answers a call. -/
def respond (plant : Plant) : (call : Call) → call.Answer × Plant
  | .getStatus none => (.ok (plant.part.summary Component.ordered), plant)
  | .getStatus (some component) =>
    let part := plant.part.change component Part.advanced
    (.ok (part.summary [component]), { plant with part })
  | .pause => (.ok (), { plant with part := plant.part.pausing })
  | .reset component => (.ok (), { plant with part := plant.part.change component Part.reset })
  | .upgrade component => (.ok (), { plant with part := plant.part.change component Part.launched })
  | .getGroup id =>
    match plant.groups.find? fun group => group.id = id with
    | some group => (.ok group, plant)
    | none => (.error (noGroup id), plant)
  | .updateGroup id group =>
    if plant.groups.any fun other => other.id = id then
      (.ok group, { plant with
        groups := Simulation.Fabric.modifyFirst (fun other => other.id = id) (fun _ => group)
          plant.groups })
    else (.error (noGroup id), plant)
  | .reorderGroup id placement =>
    match plant.groups.find? fun group => group.id = id with
    | none => (.error (noGroup id), plant)
    | some group =>
      let others := plant.groups.eraseP fun group => group.id = id
      if others.any fun other => other.id = placement.anchor then
        (.ok (), { plant with groups := Simulation.Fabric.insertAt group placement others })
      else (.error (noGroup placement.anchor), { plant with groups := others })
  | .listGroups component =>
    (.ok (plant.groups.filter fun group => component.all fun component =>
      group.type = component.wire), plant)
  | .getSettings component => (.ok (plant.settings component), plant)
  | .updateSettings component settings =>
    (.ok settings, { plant with settings := Function.update plant.settings component settings })
  | .getGroupStatus component =>
    (.ok ((plant.groups.filter fun group => group.type = component.wire).map fun group =>
      ⟨group.id, group.displayName.getD "",
        if group.enabled then (plant.part component).status else .notStarted⟩), plant)
  | .checkUpgraded _ => (.ok (), plant)

/-- The plant after it has answered calls. -/
def after (plant : Plant) (calls : List Call) : Plant :=
  calls.foldl (fun plant call => (plant.respond call).2) plant

/-- The time that an exchange takes. -/
def passed : Exchange Question Answer → Nat
  | ⟨.sleep milliseconds, true⟩ => milliseconds
  | _ => 0

/-- The time that exchanges have taken. -/
def elapsed (past : History) : Nat :=
  past.foldl (fun now exchange => now + passed exchange) 0

/-- The world in which the plant answers. -/
def world (plant : Plant) : World where
  reply calls call := ((plant.after calls).respond call).1
  clock := elapsed

variable {plant : Plant} {past : History}

/-- A plant answers the second calls as what the first ones have left. -/
theorem after_append (plant : Plant) (first second : List Call) :
    plant.after (first ++ second) = (plant.after first).after second :=
  List.foldl_append

@[simp]
theorem elapsed_snoc (past : History) (exchange : Exchange Question Answer) :
    elapsed (past ++ [exchange]) = elapsed past + passed exchange := by
  simp [elapsed, List.foldl_append]

end Plant

end FabricUpgrade
