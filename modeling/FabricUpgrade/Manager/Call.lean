import FabricUpgrade.Manager.Error
import FabricUpgrade.PlanSettings
import FabricUpgrade.UnitGroup

/-!
# Manager calls

The calls that an upgrade makes to the manager of a fabric, each with the type of its reply.
-/

namespace FabricUpgrade

/-- The kinds of calls, as they are named in complaints. -/
inductive Operation where
  | groupGet
  | groupUpdate
  | groupReorder
  | groupList
  | settingsGet
  | settingsUpdate
  | planPause
  | planReset
  | planUpgrade
  | statusGet
  | groupStatusGet
  | postUpgradeCheck
deriving DecidableEq, Repr

namespace Operation

/-- Every kind of call. -/
def all : List Operation :=
  [groupGet, groupUpdate, groupReorder, groupList, settingsGet, settingsUpdate, planPause,
    planReset, planUpgrade, statusGet, groupStatusGet, postUpgradeCheck]

/-- The name of a kind of call. -/
def label : Operation → String
  | groupGet => "GroupGet"
  | groupUpdate => "GroupUpdate"
  | groupReorder => "GroupReorder"
  | groupList => "GroupList"
  | settingsGet => "SettingsGet"
  | settingsUpdate => "SettingsUpdate"
  | planPause => "PlanPause"
  | planReset => "PlanReset"
  | planUpgrade => "PlanUpgrade"
  | statusGet => "StatusGet"
  | groupStatusGet => "GroupStatusGet"
  | postUpgradeCheck => "PostUpgradeCheck"

/-- The kind of call of a name. -/
def ofLabel? (name : String) : Option Operation :=
  all.find? fun operation => operation.label = name

end Operation

/-- A call to the manager.  Where a component is optional, none asks about the whole upgrade. -/
inductive Call where
  | getGroup (id : String)
  | updateGroup (id : String) (group : UnitGroup)
  | reorderGroup (id : String) (placement : Placement)
  | listGroups (component : Option Component)
  | getSettings (component : Component)
  | updateSettings (component : Component) (settings : PlanSettings)
  | pause
  | reset (component : Component)
  | upgrade (component : Component)
  | getStatus (component : Option Component)
  | getGroupStatus (component : Component)
  | checkUpgraded (component : Component)

namespace Call

/-- What the manager replies to a call that succeeds. -/
def Reply : Call → Type
  | getGroup _ => UnitGroup
  | updateGroup _ _ => UnitGroup
  | reorderGroup _ _ => Unit
  | listGroups _ => List UnitGroup
  | getSettings _ => PlanSettings
  | updateSettings _ _ => PlanSettings
  | pause => Unit
  | reset _ => Unit
  | upgrade _ => Unit
  | getStatus _ => Summary
  | getGroupStatus _ => List GroupStatus
  | checkUpgraded _ => Unit

/-- The answer to a call: its reply, or why it failed. -/
abbrev Answer (call : Call) : Type :=
  Except ManagerError call.Reply

/-- The kind of a call. -/
def operation : Call → Operation
  | getGroup _ => .groupGet
  | updateGroup _ _ => .groupUpdate
  | reorderGroup _ _ => .groupReorder
  | listGroups _ => .groupList
  | getSettings _ => .settingsGet
  | updateSettings _ _ => .settingsUpdate
  | pause => .planPause
  | reset _ => .planReset
  | upgrade _ => .planUpgrade
  | getStatus _ => .statusGet
  | getGroupStatus _ => .groupStatusGet
  | checkUpgraded _ => .postUpgradeCheck

/-- The object that a call is about: a group or a component. -/
def target? : Call → Option String
  | getGroup id | updateGroup id _ | reorderGroup id _ => some id
  | listGroups component | getStatus component => component.map Component.wire
  | pause => none
  | getSettings component | updateSettings component _ | reset component | upgrade component
  | getGroupStatus component | checkUpgraded component => some component.wire

/-- Whether a call changes the plan or starts something on the fabric. -/
def changes : Call → Bool
  | getGroup _ | listGroups _ | getSettings _ | getStatus _ | getGroupStatus _ => false
  | _ => true

end Call

end FabricUpgrade
