import FabricUpgrade.Upgrade.Session

/-!
# A stage for sessions

A `Stage` answers the questions of a session: a manager answers the calls, a virtual clock moves
only while the session pauses, and a signal to stop comes at an instant or with a call.  After a
great many calls every further one fails, so that no session goes on for ever.
-/

namespace FabricUpgrade.Simulation

/-- Where and when a session is held. -/
structure Stage (Manager : Type) where
  manager : Manager
  /-- The instant, in milliseconds. -/
  now : Nat := 0
  /-- The instant of the signal to stop; at the very start it has been given already. -/
  stopAt : Option Nat := none
  /-- The number of the call that the signal to stop comes with. -/
  stopOnCall : Option Nat := none
  stopped : Bool := stopAt = some 0
  /-- How many calls are answered, if not all of them. -/
  limit : Option Nat := some 2000
  /-- The calls and their instants, the last one first. -/
  calls : List (Call × Nat) := []

namespace Stage

variable {Manager : Type}

/-- Lets time pass, but not beyond the signal to stop; tells whether all of it has passed. -/
def sleep (stage : Stage Manager) (milliseconds : Nat) : Bool × Stage Manager :=
  let waking := stage.now + milliseconds
  if stage.stopped then (false, stage)
  else
    match stage.stopAt.filter (· ≤ waking) with
    | some instant => (false, { stage with now := max stage.now instant, stopped := true })
    | none => (true, { stage with now := waking })

/-- Notes a call and gives the signal to stop that comes with it. -/
def note (stage : Stage Manager) (call : Call) : Stage Manager :=
  { stage with
    calls := (call, stage.now) :: stage.calls
    stopped := stage.stopped || stage.stopOnCall = some (stage.calls.length + 1) }

/-- Whether more calls have been made than are answered. -/
def isExhausted (stage : Stage Manager) : Bool :=
  stage.limit.any (· < stage.calls.length)

/-- Has a call answered by the manager, within the limit. -/
def call (respond : Manager → (call : Call) → call.Answer × Manager) (stage : Stage Manager)
    (call : Call) : call.Answer × Stage Manager :=
  let stage := stage.note call
  if stage.isExhausted then (.error (.transport "call limit"), stage)
  else
    let (answer, manager) := respond stage.manager call
    (answer, { stage with manager })

/-- Answers a question of a session. -/
def answer (respond : Manager → (call : Call) → call.Answer × Manager) :
    (question : Session.Question) → StateM (Stage Manager) (Session.Answer question)
  | .call made => fun stage => stage.call respond made
  | .now => fun stage => (stage.now, stage)
  | .sleep milliseconds => fun stage => stage.sleep milliseconds
  | .stopRequested => fun stage => (stage.stopped, stage)

/-- Holds a session on the stage. -/
def hold {Result : Type} (respond : Manager → (call : Call) → call.Answer × Manager)
    (session : Session Result) (stage : Stage Manager) : Result × Stage Manager :=
  (session.runIn (answer respond)).run stage

end Stage

/-- Answers to status requests, given out one after the other; the last one repeats. -/
abbrev StatusScript := List (Except ManagerError Summary)

namespace StatusScript

/-- Answers a call from the script, which holds answers to status requests only. -/
def respond (script : StatusScript) : (call : Call) → call.Answer × StatusScript
  | .getStatus _ =>
    match script with
    | [] => (.error (.transport "no answer"), [])
    | [answer] => (answer, [answer])
    | answer :: rest => (answer, rest)
  | .getGroup _ | .updateGroup _ _ | .reorderGroup _ _ | .listGroups _ | .getSettings _
  | .updateSettings _ _ | .pause | .reset _ | .upgrade _ | .getGroupStatus _ | .checkUpgraded _ =>
    (.error (.transport "no answer"), script)

end StatusScript

end FabricUpgrade.Simulation
