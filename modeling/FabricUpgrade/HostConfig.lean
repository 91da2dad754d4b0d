import FabricUpgrade.Bag

/-!
# Host upgrade options

Four settings of a host group's bag have a meaning here.  `HostConfig` is that meaning, and
`HostConfig.applyTo` writes it into a bag as a unit: the four keys are taken out and written anew at
the end, all other entries stay as they are.
-/

namespace FabricUpgrade

/-- How the hosts of a group are upgraded. -/
inductive HostMode where
  | maintenanceMode
  | inPlace
  | stageInVlcm
deriving DecidableEq, Repr

namespace HostMode

/-- Every mode. -/
def all : List HostMode :=
  [maintenanceMode, inPlace, stageInVlcm]

/-- The name of a mode. -/
def wire : HostMode → String
  | maintenanceMode => "maintenance_mode"
  | inPlace => "in_place"
  | stageInVlcm => "stage_in_vlcm"

/-- The mode of a name. -/
def ofWire? (name : String) : Option HostMode :=
  all.find? fun mode => mode.wire = name

/-- Reads a mode. -/
def ofJson? : Json → Option HostMode :=
  Json.case? ofWire?

theorem ofWire?_wire (mode : HostMode) : ofWire? mode.wire = some mode := by
  cases mode <;> decide

end HostMode

/-- What becomes of the stored data of a host that enters maintenance mode. -/
inductive VsanMode where
  | evacuateAllData
  | ensureObjectAccessibility
  | noAction
deriving DecidableEq, Repr

namespace VsanMode

/-- Every mode. -/
def all : List VsanMode :=
  [evacuateAllData, ensureObjectAccessibility, noAction]

/-- The name of a mode. -/
def wire : VsanMode → String
  | evacuateAllData => "evacuate_all_data"
  | ensureObjectAccessibility => "ensure_object_accessibility"
  | noAction => "no_action"

/-- The mode of a name. -/
def ofWire? (name : String) : Option VsanMode :=
  all.find? fun mode => mode.wire = name

/-- Reads a mode. -/
def ofJson? : Json → Option VsanMode :=
  Json.case? ofWire?

theorem ofWire?_wire (mode : VsanMode) : ofWire? mode.wire = some mode := by
  cases mode <;> decide

end VsanMode

/-- The upgrade options of a host group. -/
structure HostConfig where
  upgradeMode : Option HostMode := none
  vsanMode : Option VsanMode := none
  evacuatePoweredOffVms : Bool := false
  rebootlessUpgrade : Bool := true
deriving DecidableEq, Repr

namespace HostConfig

/-- The key of the upgrade mode. -/
def upgradeModeKey : String :=
  "upgrade_mode"

/-- The key of the mode for stored data. -/
def vsanModeKey : String :=
  "maintenance_mode_config_vsan_mode"

/-- The key of the flag for virtual machines that are powered off. -/
def evacuateKey : String :=
  "maintenance_mode_config_evacuate_powered_off_vms"

/-- The key of the flag for upgrades without a reboot. -/
def rebootlessKey : String :=
  "rebootless_upgrade"

/-- The keys that have a meaning here. -/
def keys : List String :=
  [upgradeModeKey, vsanModeKey, evacuateKey, rebootlessKey]

/-- The text of a flag. -/
def flag (value : Bool) : String :=
  if value then "true" else "false"

/-- Writes the options into a bag: the modes only where there is one, the flags always. -/
def applyTo (config : HostConfig) (bag : Bag) : Bag :=
  let bag := keys.foldl Bag.remove bag
  let bag := config.upgradeMode.elim bag fun mode => bag.set upgradeModeKey mode.wire
  let bag := config.vsanMode.elim bag fun mode => bag.set vsanModeKey mode.wire
  let bag := bag.set evacuateKey (flag config.evacuatePoweredOffVms)
  bag.set rebootlessKey (flag config.rebootlessUpgrade)

/-- The options as a bag of their own. -/
def toBag (config : HostConfig) : Bag :=
  config.applyTo []

end HostConfig

end FabricUpgrade
