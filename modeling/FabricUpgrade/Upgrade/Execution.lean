import FabricUpgrade.Upgrade.Plan
import FabricUpgrade.Upgrade.Wait

/-!
# Executing a run

The components are driven one after the other.  A component is looked at first; if the manager is at
work on it, it is made to pause and to settle.  A component that has succeeded is left alone.  Any
other one is reset, configured and launched, once the whole upgrade has settled, and waited
for.  The management plane has no groups and no settings and cannot be made to pause; it is not
driven after a component that was upgraded in part.  At the end the declared checks are started.

Executing a run again goes on from wherever the fabric is.
-/

namespace FabricUpgrade

/-- How a component ended. -/
inductive Outcome where
  /-- It had succeeded before. -/
  | alreadySucceeded
  /-- It was upgraded. -/
  | completed
  /-- The declared groups left a part of it for later. -/
  | partiallyCompleted
  /-- It was not driven, because a component before it was upgraded in part. -/
  | skipped
deriving DecidableEq, Repr

namespace Outcome

/-- Every outcome. -/
def all : List Outcome :=
  [alreadySucceeded, completed, partiallyCompleted, skipped]

/-- The name of an outcome. -/
def label : Outcome → String
  | alreadySucceeded => "AlreadySucceeded"
  | completed => "Completed"
  | partiallyCompleted => "PartiallyCompleted"
  | skipped => "Skipped"

/-- The outcome of a name. -/
def ofLabel? (name : String) : Option Outcome :=
  all.find? fun outcome => outcome.label = name

end Outcome

/-- How one component ended, and the last status it was seen in. -/
structure ComponentReport where
  component : Component
  outcome : Outcome
  final : Option Observation
deriving DecidableEq, Repr

/-- How a run ended well. -/
structure Report where
  components : List ComponentReport := []
  /-- The components whose checks were started. -/
  postChecks : List Component := []
deriving DecidableEq, Repr

namespace Report

/-- How a component ended. -/
def outcome? (report : Report) (component : Component) : Option Outcome :=
  (report.components.find? fun entry => entry.component = component).map ComponentReport.outcome

/-- The components that were upgraded in part. -/
def partialComponents (report : Report) : List Component :=
  (report.components.filter fun entry => entry.outcome = .partiallyCompleted).map
    ComponentReport.component

/-- Whether a component was upgraded in part. -/
def isPartial (report : Report) : Bool :=
  report.components.any fun entry => entry.outcome = .partiallyCompleted

end Report

/-- The fixed choices of an execution. -/
structure Policy where
  /-- The order in which the components are driven. -/
  order : List Component := Component.ordered
  /-- What a component, and the whole upgrade, is waited for before anything is changed. -/
  settled : Transition := Transition.untilStable
  /-- Which failed status requests a wait counts as progress. -/
  tolerates : Tolerance := Tolerance.managementRestart

namespace Run

variable (policy : Policy) (run : Run)

/-- Waits with the times of the run. -/
def await (component : Option Component) (transition : Transition) : Procedure Observation :=
  Wait.await policy.tolerates component transition run.wait

/-- Makes a component on which the manager is at work settle.  The management plane settles only
when it is pausing already. -/
def settle (component : Component) (entry : Observation) : Procedure Observation := do
  if component.customizable && entry.status.isInFlight then
    if entry.status = .inProgress then Procedure.perform .pause (some component) none
    run.await policy (some component) policy.settled
  else if entry.status = .pausing then run.await policy (some component) policy.settled
  else return entry

/-- Resets the plan of a component and configures what is declared of it. -/
def prepare (component : Component) : Procedure Unit := do
  Procedure.perform (.reset component) (some component) none
  match run.plan? component with
  | none => return
  | some plan =>
    Plan.configureGroups component plan.groups
    Plan.configureSettings component plan.settings

/-- Launches the upgrade of a component, once the whole upgrade has settled. -/
def launch (component : Component) : Procedure Unit := do
  let _ ← run.await policy none policy.settled
  if component.customizable then run.prepare component
  Procedure.perform (.upgrade component) (some component) none

/-- Drives one component to its end. -/
def driveComponent (component : Component) : Procedure ComponentReport := do
  let entry ← run.settle policy component (← Wait.probe (some component))
  if entry.status = .success then return ⟨component, .alreadySucceeded, some entry⟩
  unless entry.status.isInFlight do run.launch policy component
  let final ← run.await policy (some component) (.ofUpgrade (run.isPartial component))
  return ⟨component, if run.isPartial component then .partiallyCompleted else .completed,
    some final⟩

/-- Drives components in order.  The flag says whether an earlier one was upgraded in part. -/
def drive : List Component → Bool → Procedure (List ComponentReport)
  | [], _ => return []
  | component :: rest, partialSeen => do
    if ← Session.stopRequested then throw (.cancelled (some component))
    if component = .management && partialSeen then
      return ⟨component, .skipped, none⟩ :: (← drive rest partialSeen)
    let report ← run.driveComponent policy component
    let partialSeen := partialSeen || report.outcome = .partiallyCompleted
    return report :: (← drive rest partialSeen)

/-- Whether the check of a component is declared. -/
def wantsCheck (component : Component) : Bool :=
  component.checkable &&
    ((run.plan? component).bind ComponentPlan.settings).any DeclaredSettings.postUpgradeCheck

/-- Starts the checks of components; those that cannot be started are passed over. -/
def startChecks : List Component → Session (List Component)
  | [] => return []
  | component :: rest => do
    match ← Session.call (.checkUpgraded component) with
    | .ok _ => return component :: (← startChecks rest)
    | .error _ => startChecks rest

/-- Starts every declared check and tells which ones could be started. -/
def dispatchChecks : Session (List Component) :=
  startChecks (Component.ordered.filter run.wantsCheck)

/-- Executes a run. -/
def execute : Procedure Report := do
  let components ← run.drive policy policy.order false
  return { components, postChecks := ← run.dispatchChecks }

end Run

end FabricUpgrade
