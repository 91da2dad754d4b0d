import FabricUpgrade.Program
import FabricUpgrade.Upgrade.Failure

/-!
# Upgrade sessions

An upgrade asks four kinds of questions: a call to the manager, the time, a pause, and whether it
was told to stop.  Instants and pauses are in milliseconds.  A pause ends early when the upgrade is
told to stop, and its answer says whether all of it has passed.
-/

namespace FabricUpgrade

namespace Session

/-- What an upgrade asks for. -/
inductive Question where
  | call (call : Call)
  | now
  | sleep (milliseconds : Nat)
  | stopRequested

/-- The answers to the questions of an upgrade. -/
def Answer : Question → Type
  | .call call => call.Answer
  | .now => Nat
  | .sleep _ => Bool
  | .stopRequested => Bool

end Session

/-- A conversation of an upgrade with its surroundings. -/
abbrev Session : Type → Type :=
  Program Session.Question Session.Answer

/-- A session that may end early. -/
abbrev Procedure : Type → Type :=
  ExceptT Failure Session

namespace Session

/-- Makes a call. -/
def call (call : Call) : Session call.Answer :=
  Program.question (Question.call call)

/-- Asks for the time. -/
def now : Session Nat :=
  Program.question Question.now

/-- Lets time pass; the answer says whether all of it has passed. -/
def sleep (milliseconds : Nat) : Session Bool :=
  Program.question (Question.sleep milliseconds)

/-- Asks whether the upgrade was told to stop. -/
def stopRequested : Session Bool :=
  Program.question Question.stopRequested

end Session

namespace Procedure

/-- Makes a call that has to succeed, on account of a component and about an object. -/
def perform (call : Call) (component : Option Component) (target : Option String) :
    Procedure call.Reply := do
  match ← Session.call call with
  | .ok reply => return reply
  | .error error => throw (.call call.operation component target error)

/-- Lets time pass on account of a component. -/
def rest (component : Option Component) (milliseconds : Nat) : Procedure Unit := do
  unless ← Session.sleep milliseconds do throw (.cancelled component)

end Procedure

end FabricUpgrade
