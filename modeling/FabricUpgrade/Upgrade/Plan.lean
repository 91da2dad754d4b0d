import FabricUpgrade.Upgrade.Session

/-!
# Configuring the plan

The declared groups of a component are fetched, overwritten and written back in their order, each
one but the first then being put right behind the one before it.  The declared settings are fetched,
overwritten and written back.
-/

namespace FabricUpgrade.Plan

/-- Configures groups; from the second on, each is put behind the one before it. -/
def configureGroupsAfter (component : Component) : Option String → List DeclaredGroup →
    Procedure Unit
  | _, [] => return
  | previous, declared :: rest => do
    let id := declared.id
    let group ← Procedure.perform (.getGroup id) (some component) (some id)
    let changed := declared.applyTo component group
    let _ ← Procedure.perform (.updateGroup id changed) (some component) (some id)
    match previous with
    | none => pure ()
    | some anchor =>
      Procedure.perform (.reorderGroup id (.after anchor)) (some component) (some id)
    configureGroupsAfter component (some id) rest

/-- Configures the declared groups of a component. -/
def configureGroups (component : Component) (declared : List DeclaredGroup) : Procedure Unit :=
  configureGroupsAfter component none declared

/-- Configures the declared settings of a component, if there are any. -/
def configureSettings (component : Component) (declared : Option DeclaredSettings) :
    Procedure Unit := do
  match declared with
  | none => return
  | some declared =>
    let settings ← Procedure.perform (.getSettings component) (some component) none
    let changed := declared.applyTo component settings
    let _ ← Procedure.perform (.updateSettings component changed) (some component) none

end FabricUpgrade.Plan
