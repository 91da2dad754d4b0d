/-!
# Failed manager calls

`ManagerError` is the cause of one failed call.  A manager that restarts is seen as unavailable or
as too slow; these two causes are told apart from all others.
-/

namespace FabricUpgrade

/-- Why a call to the manager failed. -/
inductive ManagerError where
  | serviceUnavailable (message : String)
  | timeout (message : String)
  | notFound (message : String)
  | api (code : Nat) (message : String)
  | transport (message : String)
  | decode (message : String)
deriving DecidableEq, Repr

namespace ManagerError

/-- The sentence about a failed call. -/
def message : ManagerError → String
  | serviceUnavailable text => s!"service unavailable: {text}"
  | timeout text => s!"request timed out: {text}"
  | notFound text => s!"not found: {text}"
  | api code text => s!"API error (HTTP {code}): {text}"
  | transport text => s!"transport error: {text}"
  | decode text => s!"invalid response: {text}"

/-- Whether the manager could not be reached or said that it is unavailable. -/
def isServiceUnavailable : ManagerError → Bool
  | serviceUnavailable _ => true
  | _ => false

/-- Whether the manager did not answer in time. -/
def isTimeout : ManagerError → Bool
  | timeout _ => true
  | _ => false

/-- Whether the manager does not know what was asked for. -/
def isNotFound : ManagerError → Bool
  | notFound _ => true
  | _ => false

/-- Whether a restart of the manager can be the cause. -/
def isRestart (error : ManagerError) : Bool :=
  error.isServiceUnavailable || error.isTimeout

end ManagerError

end FabricUpgrade
