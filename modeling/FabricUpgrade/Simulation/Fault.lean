/-!
# Injected faults

A list of faults says which requests are made to fail.  A request meets the first fault that
concerns it and is neither still to be skipped nor used up.
-/

namespace FabricUpgrade.Simulation

/-- A fault: what it concerns, the error, how many requests it lets pass first, and how many it
makes fail, which without a number are all. -/
structure Fault (Subject Error : Type) where
  subject : Subject
  error : Error
  skip : Nat := 0
  times : Option Nat := none

/-- The error that a request meets, and the faults that are left. -/
def Fault.meet {Subject Error : Type} (concerns : Subject → Bool) :
    List (Fault Subject Error) → Option Error × List (Fault Subject Error)
  | [] => (none, [])
  | fault :: rest =>
    let pass (kept : Fault Subject Error) :=
      let (error, left) := Fault.meet concerns rest
      (error, kept :: left)
    if !concerns fault.subject then pass fault
    else if 0 < fault.skip then pass { fault with skip := fault.skip - 1 }
    else
      match fault.times with
      | some 0 => pass fault
      | some (left + 1) => (some fault.error, { fault with times := some left } :: rest)
      | none => (some fault.error, fault :: rest)

end FabricUpgrade.Simulation
