import FabricUpgrade.Component
import FabricUpgrade.HostConfig

/-!
# Declared runs

A `Run` is what a caller wants of one upgrade: for the edge nodes and for the hosts the groups in
their order with their options, the plan settings, and how to wait.
-/

namespace FabricUpgrade

/-- The declared options of one group. -/
structure DeclaredGroup where
  id : String
  enabled : Bool := true
  /-- Passed over for edge groups. -/
  parallel : Bool := true
  pauseAfterEachUnit : Bool := false
  /-- Of use for host groups only. -/
  hostConfig : Option HostConfig := none
deriving DecidableEq, Repr

/-- Whether the group makes its component end in a pause. -/
def DeclaredGroup.isPartial (group : DeclaredGroup) : Bool :=
  !group.enabled || group.pauseAfterEachUnit

/-- The declared plan settings of a component. -/
structure DeclaredSettings where
  parallel : Bool := true
  /-- Passed over for edge nodes, which always pause on an error. -/
  stopOnError : Bool := false
  /-- Whether the component is checked after its upgrade; never part of the plan settings. -/
  postUpgradeCheck : Bool := true
deriving DecidableEq, Repr

/-- What is declared of one component. -/
structure ComponentPlan where
  groups : List DeclaredGroup := []
  settings : Option DeclaredSettings := none
deriving DecidableEq, Repr

/-- Whether a declared group makes the component end in a pause. -/
def ComponentPlan.isPartial (plan : ComponentPlan) : Bool :=
  plan.groups.any DeclaredGroup.isPartial

/-- How to wait, in whole seconds. -/
structure WaitTimes where
  /-- The bound on one wait, the first delay included. -/
  timeout : Nat := 3600
  /-- The time between two probes. -/
  interval : Nat := 30
  /-- The time before the first probe. -/
  delay : Nat := 30
deriving DecidableEq, Repr

/-- One upgrade of a fabric as its caller declares it. -/
structure Run where
  /-- The preparation that the run belongs to. -/
  prepareReadyId : String := ""
  edge : ComponentPlan := {}
  host : ComponentPlan := {}
  wait : WaitTimes := {}
deriving DecidableEq, Repr

namespace Run

/-- What is declared of a component; nothing can be declared of the management plane. -/
def plan? (run : Run) : Component → Option ComponentPlan
  | .edge => some run.edge
  | .host => some run.host
  | .management => none

/-- Whether the declared groups make the upgrade of a component a partial one. -/
def isPartial (run : Run) (component : Component) : Bool :=
  (run.plan? component).any ComponentPlan.isPartial

end Run

end FabricUpgrade
