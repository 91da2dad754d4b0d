import FabricUpgrade.Manager.Call
import FabricUpgrade.Simulation.Fault

/-!
# A simulated fabric

A fabric that answers the calls of an upgrade.  Each component runs through a script: every status
request about it takes one step.  Launching an upgrade installs the component's upgrade script,
pausing makes the components in progress pause, resetting brings a paused or failed component back
to the start.  The status of the whole upgrade follows from those of the components, unless statuses
are queued for it.
-/

namespace FabricUpgrade.Simulation

/-- One step of a script. -/
inductive ScriptStep where
  /-- The component takes a status, and details if there are any. -/
  | turn (status : Status) (details : Option String)
  /-- The status request fails. -/
  | fail (error : ManagerError)

/-- A component of a simulated fabric; its type need not be one that is known. -/
structure FabricComponent where
  type : String
  status : Status := .notStarted
  details : Option String := none
  targetVersion : Option String := none
  script : List ScriptStep := []
  upgradeScript : List ScriptStep := [.turn .inProgress none, .turn .success none]

/-- A simulated fabric. -/
structure Fabric where
  groups : List UnitGroup := []
  settings : List (Component × PlanSettings) := []
  components : List FabricComponent :=
    Component.ordered.map fun component => { type := component.wire }
  /-- What is queued to be told as the status of the whole upgrade. -/
  overall : List Status := []
  /-- How often the whole upgrade is told to be in progress after a component has settled. -/
  linger : Nat := 0
  /-- The types that summaries leave out. -/
  hidden : List String := []
  faults : List (Fault (Operation × Option String) ManagerError) := []

namespace Fabric

/-- Changes the components of a type. -/
def modifyType (fabric : Fabric) (type : String) (change : FabricComponent → FabricComponent) :
    Fabric :=
  { fabric with
    components := fabric.components.map fun component =>
      if component.type = type then change component else component }

/-- Changes the first element that passes the test. -/
def modifyFirst {α : Type} (test : α → Bool) (change : α → α) : List α → List α
  | [] => []
  | element :: rest =>
    if test element then change element :: rest else element :: modifyFirst test change rest

/-- The status of the whole upgrade as it follows from the components. -/
def computedOverall (fabric : Fabric) : Status :=
  if fabric.components.any fun component => component.status.isInFlight then .inProgress
  else if fabric.components.all fun component => component.status = .success then .success
  else .notStarted

/-- The records of the components that are shown and pass the test. -/
def records (fabric : Fabric) (test : FabricComponent → Bool) : List ComponentRecord :=
  (fabric.components.filter fun component => component.type ∉ fabric.hidden ∧ test component).map
    fun component =>
      ⟨component.type, component.status, component.details, component.targetVersion⟩

/-- Answers a status request about the whole upgrade. -/
def overallSummary (fabric : Fabric) : Summary × Fabric :=
  let components := fabric.records fun _ => true
  match fabric.overall with
  | [] => (⟨fabric.computedOverall, components⟩, fabric)
  | status :: rest => (⟨status, components⟩, { fabric with overall := rest })

/-- Takes one step of the script of a component. -/
def advance (fabric : Fabric) (type : String) : Option ManagerError × Fabric :=
  match fabric.components.find? fun component => component.type = type with
  | none => (none, fabric)
  | some component =>
    match component.script with
    | [] => (none, fabric)
    | step :: script =>
      let change (changed : FabricComponent) : Fabric :=
        { fabric with
          components :=
            modifyFirst (fun component => component.type = type) (fun _ => changed)
              fabric.components }
      match step with
      | .fail error => (some error, change { component with script })
      | .turn status details =>
        let fabric := change
          { component with script, status, details := details.orElse fun _ => component.details }
        let settled := component.status.isInFlight && !status.isInFlight
        let lingering := if settled then List.replicate fabric.linger Status.inProgress else []
        (none, { fabric with overall := fabric.overall ++ lingering })

/-- Answers a status request about a component. -/
def componentSummary (fabric : Fabric) (component : Component) :
    Except ManagerError Summary × Fabric :=
  match fabric.advance component.wire with
  | (some error, fabric) => (.error error, fabric)
  | (none, fabric) =>
    let components := fabric.records fun entry => entry.type = component.wire
    (.ok ⟨fabric.computedOverall, components⟩, fabric)

/-- Makes the components in progress pause. -/
def pauseAll (fabric : Fabric) : Fabric :=
  { fabric with
    components := fabric.components.map fun component =>
      if component.status = .inProgress then
        { component with
          status := .pausing
          script := if component.script.isEmpty then [.turn .paused none] else component.script }
      else component }

/-- Brings a component that is paused or has failed back to the start. -/
def resetComponent (component : FabricComponent) : FabricComponent :=
  if component.status = .paused ∨ component.status = .failed then
    { component with status := .notStarted }
  else component

/-- Launches the upgrade of a component. -/
def launchComponent (component : FabricComponent) : FabricComponent :=
  { component with status := .inProgress, script := component.upgradeScript }

/-- The complaint about a group that is not there. -/
def noGroup (id : String) : ManagerError :=
  .notFound s!"group {id}"

/-- Puts a group in front of an anchor or behind it. -/
def insertAt (group : UnitGroup) (placement : Placement) : List UnitGroup → List UnitGroup
  | [] => []
  | other :: rest =>
    if other.id = placement.anchor then
      if placement.isBefore then group :: other :: rest else other :: group :: rest
    else other :: insertAt group placement rest

/-- Moves a group next to an anchor. -/
def reorder (fabric : Fabric) (id : String) (placement : Placement) :
    Except ManagerError Unit × Fabric :=
  match fabric.groups.find? fun group => group.id = id with
  | none => (.error (noGroup id), fabric)
  | some group =>
    let others := fabric.groups.eraseP fun group => group.id = id
    if others.any fun other => other.id = placement.anchor then
      (.ok (), { fabric with groups := insertAt group placement others })
    else (.error (noGroup placement.anchor), fabric)

/-- The plan settings of a component, which at first are empty. -/
def settingsOf (fabric : Fabric) (component : Component) : PlanSettings :=
  ((fabric.settings.find? fun entry => entry.1 = component).map Prod.snd).getD {}

/-- Stores the plan settings of a component. -/
def storeSettings (fabric : Fabric) (component : Component) (settings : PlanSettings) : Fabric :=
  { fabric with
    settings :=
      (fabric.settings.filter fun entry => entry.1 ≠ component) ++ [(component, settings)] }

/-- The status of the groups of a component: that of the component where the group takes part. -/
def groupStatuses (fabric : Fabric) (component : Component) : List GroupStatus :=
  let first := fabric.components.find? fun entry => entry.type = component.wire
  let status := (first.map FabricComponent.status).getD .notStarted
  (fabric.groups.filter fun group => group.type = component.wire).map fun group =>
    ⟨group.id, group.displayName.getD "", if group.enabled then status else .notStarted⟩

/-- Carries out a call that meets no fault. -/
def carryOut (fabric : Fabric) : (call : Call) → call.Answer × Fabric
  | .getGroup id =>
    match fabric.groups.find? fun group => group.id = id with
    | some group => (.ok group, fabric)
    | none => (.error (noGroup id), fabric)
  | .updateGroup id group =>
    if fabric.groups.any fun other => other.id = id then
      (.ok group, { fabric with
        groups := modifyFirst (fun other => other.id = id) (fun _ => group) fabric.groups })
    else (.error (noGroup id), fabric)
  | .reorderGroup id placement => fabric.reorder id placement
  | .listGroups none => (.ok fabric.groups, fabric)
  | .listGroups (some component) =>
    (.ok (fabric.groups.filter fun group => group.type = component.wire), fabric)
  | .getSettings component => (.ok (fabric.settingsOf component), fabric)
  | .updateSettings component settings =>
    (.ok settings, fabric.storeSettings component settings)
  | .pause => (.ok (), fabric.pauseAll)
  | .reset component => (.ok (), fabric.modifyType component.wire resetComponent)
  | .upgrade component => (.ok (), fabric.modifyType component.wire launchComponent)
  | .getStatus none =>
    let (summary, fabric) := fabric.overallSummary
    (.ok summary, fabric)
  | .getStatus (some component) => fabric.componentSummary component
  | .getGroupStatus component => (.ok (fabric.groupStatuses component), fabric)
  | .checkUpgraded _ => (.ok (), fabric)

/-- Answers a call: the first fault that concerns it makes it fail. -/
def answer (fabric : Fabric) (call : Call) : call.Answer × Fabric :=
  let concerns (subject : Operation × Option String) : Bool :=
    subject.1 = call.operation ∧ (subject.2 = none ∨ subject.2 = call.target?)
  match Fault.meet concerns fabric.faults with
  | (some error, faults) => (.error error, { fabric with faults })
  | (none, faults) => { fabric with faults }.carryOut call

end Fabric

end FabricUpgrade.Simulation
