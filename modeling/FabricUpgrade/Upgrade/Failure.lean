import FabricUpgrade.Manager.Call
import FabricUpgrade.Text.Seconds

/-!
# Failed upgrades

`Failure` is why an upgrade ended early: a call failed, a wait ran out of time, a status turned up
that the wait neither waits through nor for, a summary had no record of the component, or the run
was told to stop.
-/

namespace FabricUpgrade

/-- Why an upgrade ended early. -/
inductive Failure where
  | call (operation : Operation) (component : Option Component) (target : Option String)
      (error : ManagerError)
  | waitTimeout (component : Option Component) (target : StatusSet) (seconds : Nat)
      (last : Option Observation)
  | unexpectedStatus (component : Option Component) (target : StatusSet) (observed : Observation)
  | statusNotFound (component : Component)
  | cancelled (component : Option Component)
deriving DecidableEq

namespace Failure

/-- What a failure is about: a component, an object of the manager, both or neither. -/
def scope : Option Component → Option String → String
  | some component, some target => s!" for {component.wire} ({target})"
  | some component, none => s!" for {component.wire}"
  | none, some target => s!" for {target}"
  | none, none => ""

/-- The sentence about a failure. -/
def message : Failure → String
  | call operation component target error =>
    s!"{operation.label} failed{scope component target}: {error.message}"
  | waitTimeout component target seconds last =>
    s!"failed to wait upgrade{scope component none} to be {target.label}: timeout after "
      ++ Text.secondsText seconds ++ "." ++ last.elim "" fun observed => " " ++ observed.message
  | unexpectedStatus component target observed =>
    s!"failed to wait upgrade{scope component none} to be {target.label}: unexpected status "
      ++ s!"{observed.status.wire}. {observed.message}"
  | statusNotFound component => s!"couldn't find upgrade status of {component.wire} component"
  | cancelled component => s!"upgrade run cancelled{scope component none}"

/-- The component that a failure is put down to. -/
def component? : Failure → Option Component
  | call _ component _ _ => component
  | waitTimeout component _ _ _ => component
  | unexpectedStatus component _ _ => component
  | statusNotFound component => some component
  | cancelled component => component

/-- The kind of the call that failed. -/
def operation? : Failure → Option Operation
  | call operation _ _ _ => some operation
  | _ => none

/-- The last status that a wait saw before it gave up. -/
def lastObserved? : Failure → Option Observation
  | waitTimeout _ _ _ last => last
  | unexpectedStatus _ _ observed => some observed
  | _ => none

/-- Whether the run was told to stop. -/
def isCancelled : Failure → Bool
  | cancelled _ => true
  | _ => false

/-- Whether the same run may do better later. -/
def isTransient : Failure → Bool
  | call _ _ _ error => error.isRestart
  | waitTimeout _ _ _ _ => true
  | cancelled _ => true
  | unexpectedStatus _ _ _ => false
  | statusNotFound _ => false

end Failure

end FabricUpgrade
