import FabricUpgrade.Upgrade.Session

/-!
# Waiting for a status

`Wait.observe` asks once for a status.  `Wait.await` asks again and again, as its times say, until
the status is one that is waited for, or one that is not waited through, or the time is up.  Whether
the time is up is decided after the status was looked at, and the last pause ends at the deadline,
so that there is one probe at the deadline itself.
-/

namespace FabricUpgrade

/-- Which failed status requests count as a component that is still in progress. -/
abbrev Tolerance : Type :=
  Option Component → ManagerError → Bool

namespace Tolerance

/-- No failed request counts as progress. -/
def none : Tolerance :=
  fun _ _ => false

/-- While the management plane is upgraded its manager restarts. -/
def managementRestart : Tolerance :=
  fun component error => component = some .management && error.isRestart

end Tolerance

namespace Wait

/-- The shortest interval between two probes, in milliseconds. -/
def leastInterval : Nat :=
  1000

/-- The last instant that a clock can show: the seconds are a signed 64-bit number. -/
def horizon : Nat :=
  9223372036854775807 * 1000

/-- The instant at which a wait is over, unless no clock can show it. -/
def deadline? (start seconds : Nat) : Option Nat :=
  let instant := start + seconds * 1000
  if instant ≤ horizon then some instant else none

/-- What a summary shows of a component, or of the whole upgrade where none is asked for. -/
def observationOf (component : Option Component) (summary : Summary) :
    Except Failure Observation :=
  match component with
  | none => .ok ⟨summary.overall, ""⟩
  | some component =>
    match summary.find? component with
    | some record => .ok ⟨record.status, record.details.getD ""⟩
    | none => .error (.statusNotFound component)

/-- Asks once for a status; a tolerated error shows a component in progress. -/
def observe (tolerates : Tolerance) (component : Option Component) : Procedure Observation := do
  match ← Session.call (.getStatus component) with
  | .ok summary => ExceptT.mk (pure (observationOf component summary))
  | .error error =>
    if tolerates component error then return ⟨.inProgress, error.message⟩
    else throw (.call .statusGet component none error)

/-- Asks once for a status; every error ends the procedure. -/
def probe (component : Option Component) : Procedure Observation :=
  observe Tolerance.none component

/-- The pause before the next probe, or nothing if the time is up. -/
def pauseAt? (times : WaitTimes) (deadline : Option Nat) (now : Nat) : Option Nat :=
  let interval := max (times.interval * 1000) leastInterval
  match deadline with
  | none => some interval
  | some deadline => if deadline ≤ now then none else some (min interval (deadline - now))

/-- One round of a wait: a probe, and if its status leaves open how the wait ends and the time is
not up, a pause and whatever comes after it. -/
def pollRound (tolerates : Tolerance) (component : Option Component) (transition : Transition)
    (times : WaitTimes) (deadline : Option Nat) (again : Option (Unit → Procedure Observation)) :
    Procedure Observation := do
  let observed ← observe tolerates component
  if observed.status ∈ transition.target then return observed
  if observed.status ∉ transition.pending then
    throw (.unexpectedStatus component transition.target observed)
  match again, pauseAt? times deadline (← Session.now) with
  | some again, some milliseconds =>
    Procedure.rest component milliseconds
    again ()
  | _, _ => throw (.waitTimeout component transition.target times.timeout (some observed))

/-- Probes until the status decides or the time is up, with a bound on the pauses in between. -/
def pollUntil (tolerates : Tolerance) (component : Option Component) (transition : Transition)
    (times : WaitTimes) (deadline : Option Nat) : Nat → Procedure Observation
  | 0 => pollRound tolerates component transition times deadline none
  | bound + 1 =>
    pollRound tolerates component transition times deadline
      (some fun _ => pollUntil tolerates component transition times deadline bound)

/-- Waits for a status.  Every pause takes at least a millisecond, so the milliseconds up to the
deadline, or up to the last instant of the clock, bound the pauses. -/
def await (tolerates : Tolerance) (component : Option Component) (transition : Transition)
    (times : WaitTimes) : Procedure Observation := do
  let start ← Session.now
  let deadline := deadline? start times.timeout
  Procedure.rest component (times.delay * 1000)
  pollUntil tolerates component transition times deadline (deadline.getD horizon - start)

end Wait

end FabricUpgrade
