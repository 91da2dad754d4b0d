import FabricUpgrade.Proofs.Waiting
import FabricUpgrade.Simulation.Stage

/-!
# Waits on a stage

What one probe means for a wait is said without the wait: `Wait.Sees` is what an answer shows,
`Wait.Decides` is how it ends the wait, `Wait.LeavesOpen` that it does not end it.  Every answer
does one of the two (`Wait.decides_or_leavesOpen`).  On a stage a round of a wait then ends with the
outcome that its answer decides on (`Stage.hold_pollRound_of_decides`), or it goes on as the clock
of the stage tells (`Stage.hold_pollRound_of_leavesOpen`).
-/

namespace FabricUpgrade

open Program Session Simulation

namespace Wait

/-- What the answer to a status request shows. -/
inductive Sees (tolerates : Tolerance) :
    Option Component → Except ManagerError Summary → Observation → Prop where
  /-- The status of the whole upgrade, without a word. -/
  | overall (summary : Summary) : Sees tolerates none (.ok summary) ⟨summary.overall, ""⟩
  /-- The status of the component, with its details. -/
  | component {component : Component} {summary : Summary} {record : ComponentRecord}
      (listed : summary.find? component = some record) :
      Sees tolerates (some component) (.ok summary) ⟨record.status, record.details.getD ""⟩
  /-- Progress, with the text of an error that is tolerated. -/
  | tolerated {component : Option Component} {error : ManagerError}
      (tolerated : tolerates component error = true) :
      Sees tolerates component (.error error) ⟨.inProgress, error.message⟩

/-- How the answer to a status request ends a wait. -/
inductive Decides (tolerates : Tolerance) (component : Option Component) (transition : Transition) :
    Except ManagerError Summary → Except Failure Observation → Prop where
  /-- A status of the target ends it well, whether it is one to wait through or not. -/
  | arrived {answer : Except ManagerError Summary} {observed : Observation}
      (sees : Sees tolerates component answer observed)
      (reached : observed.status ∈ transition.target) :
      Decides tolerates component transition answer (.ok observed)
  /-- A status that is neither waited for nor waited through ends it. -/
  | strayed {answer : Except ManagerError Summary} {observed : Observation}
      (sees : Sees tolerates component answer observed)
      (unreached : observed.status ∉ transition.target)
      (unexpected : observed.status ∉ transition.pending) :
      Decides tolerates component transition answer
        (.error (.unexpectedStatus component transition.target observed))
  /-- A summary without a record of the component ends it. -/
  | unlisted {missing : Component} {summary : Summary} (account : component = some missing)
      (unlisted : summary.find? missing = none) :
      Decides tolerates component transition (.ok summary) (.error (.statusNotFound missing))
  /-- An error that is not tolerated ends it. -/
  | failed {error : ManagerError} (untolerated : tolerates component error = false) :
      Decides tolerates component transition (.error error)
        (.error (.call .statusGet component none error))

/-- The answer to a status request shows a status to wait through. -/
structure LeavesOpen (tolerates : Tolerance) (component : Option Component)
    (transition : Transition) (answer : Except ManagerError Summary) (observed : Observation) :
    Prop where
  sees : Sees tolerates component answer observed
  unreached : observed.status ∉ transition.target
  pending : observed.status ∈ transition.pending

variable {tolerates : Tolerance} {component : Option Component} {transition : Transition}
  {answer : Except ManagerError Summary} {observed : Observation}
  {outcome : Except Failure Observation}

/-- Something is seen in an answer exactly if the answer is read as that. -/
theorem sees_iff_reading :
    Sees tolerates component answer observed ↔
      reading tolerates component answer = .ok observed := by
  constructor
  · rintro (summary | listed | tolerated)
    · rfl
    · simp [reading, observationOf, listed]
    · simp [reading, tolerated]
  · intro reads
    cases answer with
    | error error =>
      by_cases tolerated : tolerates component error = true
      · simp only [reading, tolerated, if_true, Except.ok.injEq] at reads
        exact reads ▸ .tolerated tolerated
      · simp [reading, tolerated] at reads
    | ok summary =>
      cases component with
      | none =>
        cases reads
        exact .overall summary
      | some component =>
        simp only [reading, observationOf] at reads
        cases listed : summary.find? component with
        | none => simp [listed] at reads
        | some record =>
          simp only [listed, Except.ok.injEq] at reads
          exact reads ▸ .component listed

/-- What cannot be read ends the wait. -/
theorem decides_of_reading {failure : Failure}
    (reads : reading tolerates component answer = .error failure) :
    Decides tolerates component transition answer (.error failure) := by
  cases answer with
  | error error =>
    by_cases tolerated : tolerates component error = true
    · simp [reading, tolerated] at reads
    · simp only [reading, tolerated] at reads
      cases reads
      exact .failed (eq_false_of_ne_true tolerated)
  | ok summary =>
    cases component with
    | none => cases reads
    | some component =>
      simp only [reading, observationOf] at reads
      cases listed : summary.find? component with
      | some record => simp [listed] at reads
      | none =>
        simp only [listed] at reads
        cases reads
        exact .unlisted rfl listed

/-- Every answer ends a wait or leaves it open. -/
theorem decides_or_leavesOpen (tolerates : Tolerance) (component : Option Component)
    (transition : Transition) (answer : Except ManagerError Summary) :
    (∃ outcome, Decides tolerates component transition answer outcome) ∨
      ∃ observed, LeavesOpen tolerates component transition answer observed := by
  cases reads : reading tolerates component answer with
  | error failure => exact .inl ⟨_, decides_of_reading reads⟩
  | ok observed =>
    have sees := sees_iff_reading.2 reads
    by_cases reached : observed.status ∈ transition.target
    · exact .inl ⟨_, .arrived sees reached⟩
    · by_cases pending : observed.status ∈ transition.pending
      · exact .inr ⟨observed, sees, reached, pending⟩
      · exact .inl ⟨_, .strayed sees reached pending⟩

end Wait

namespace Simulation.Stage

variable {Manager First Second : Type}
  {respond : Manager → (call : Call) → call.Answer × Manager} {stage : Stage Manager}

/-- A sequence is held by holding its first part and then the rest. -/
theorem hold_andThen (first : Session First) (next : First → Session Second) :
    stage.hold respond (first.andThen next) =
      (stage.hold respond first).2.hold respond (next (stage.hold respond first).1) := by
  induction first generalizing stage with
  | done result => rfl
  | ask asked resume inductionHypothesis => exact inductionHypothesis _

/-- A sequence whose first part returns goes on with what it returned. -/
theorem hold_bind_of_ok {first : Procedure First} {next : First → Procedure Second} {value : First}
    {later : Stage Manager} (returned : stage.hold respond first.run = (.ok value, later)) :
    stage.hold respond (first >>= next).run = later.hold respond (next value).run := by
  change stage.hold respond (first.run.andThen (ExceptT.bindCont next)) = _
  rw [hold_andThen, returned]
  rfl

/-- A sequence whose first part fails ends there. -/
theorem hold_bind_of_error {first : Procedure First} {next : First → Procedure Second}
    {failure : Failure} {later : Stage Manager}
    (failed : stage.hold respond first.run = (.error failure, later)) :
    stage.hold respond (first >>= next).run = (.error failure, later) := by
  change stage.hold respond (first.run.andThen (ExceptT.bindCont next)) = _
  rw [hold_andThen, failed]
  rfl

/-- How a pause on a stage ends. -/
inductive Slept (stage : Stage Manager) (milliseconds : Nat) : Bool × Stage Manager → Prop where
  /-- Somebody has told to stop before it. -/
  | already (stopped : stage.stopped = true) : Slept stage milliseconds (false, stage)
  /-- It is cut short by the signal to stop. -/
  | cut {stop : Nat} (unstopped : stage.stopped = false) (comes : stage.stopAt = some stop)
      (inside : stop ≤ stage.now + milliseconds) :
      Slept stage milliseconds (false, { stage with now := max stage.now stop, stopped := true })
  /-- All of it passes. -/
  | whole (unstopped : stage.stopped = false)
      (later : ∀ stop ∈ stage.stopAt, stage.now + milliseconds < stop) :
      Slept stage milliseconds (true, { stage with now := stage.now + milliseconds })

/-- Every pause on a stage ends in one of these ways. -/
theorem slept_sleep (stage : Stage Manager) (milliseconds : Nat) :
    stage.Slept milliseconds (stage.sleep milliseconds) := by
  simp only [sleep]
  split
  case isTrue stopped => exact .already stopped
  case isFalse unstopped =>
    have unstopped : stage.stopped = false := eq_false_of_ne_true unstopped
    split
    case h_1 stop stops =>
      obtain ⟨comes, inside⟩ := Option.filter_eq_some_iff.1 stops
      exact .cut unstopped comes (of_decide_eq_true inside)
    case h_2 passes =>
      refine .whole unstopped fun stop comes => Nat.lt_of_not_le ?_
      simpa using Option.filter_eq_none_iff.1 passes stop comes

/-- The clock of a stage is never set back. -/
theorem now_le_sleep (milliseconds : Nat) : stage.now ≤ (stage.sleep milliseconds).2.now := by
  have slept := stage.slept_sleep milliseconds
  generalize stage.sleep milliseconds = after at slept
  cases slept with
  | already _ => exact Nat.le_refl _
  | cut _ _ _ => exact Nat.le_max_left _ _
  | whole _ _ => exact Nat.le_add_right _ _

/-- A call is beyond the limit or it is answered by the manager. -/
theorem call_cases (stage : Stage Manager)
    (respond : Manager → (call : Call) → call.Answer × Manager) (call : Call) :
    stage.call respond call = (.error (.transport "call limit"), stage.note call) ∨
      stage.call respond call = ((respond stage.manager call).1,
        { stage.note call with manager := (respond stage.manager call).2 }) := by
  cases exhausted : (stage.note call).isExhausted with
  | true =>
    left
    simp only [Stage.call, exhausted, if_true]
  | false =>
    right
    simp only [Stage.call, exhausted, Bool.false_eq_true, if_false]
    rfl

/-- A call is noted, and beyond that it concerns the manager alone. -/
theorem exists_call_eq (stage : Stage Manager)
    (respond : Manager → (call : Call) → call.Answer × Manager) (call : Call) :
    ∃ manager, (stage.call respond call).2 = { stage.note call with manager } := by
  rcases stage.call_cases respond call with refused | answered
  · exact ⟨stage.manager, congrArg Prod.snd refused⟩
  · exact ⟨_, congrArg Prod.snd answered⟩

/-- A call takes no time. -/
@[simp]
theorem now_call (call : Call) : (stage.call respond call).2.now = stage.now := by
  obtain ⟨manager, called⟩ := stage.exists_call_eq respond call
  rw [called]
  rfl

/-- While a session is held the clock is never set back. -/
theorem now_le_hold (session : Session First) : stage.now ≤ (stage.hold respond session).2.now := by
  induction session generalizing stage with
  | done result => exact Nat.le_refl _
  | ask asked resume inductionHypothesis =>
    refine Nat.le_trans ?_ (inductionHypothesis _)
    cases asked with
    | call made => exact Nat.le_of_eq (now_call made).symm
    | now => exact Nat.le_refl _
    | sleep milliseconds => exact now_le_sleep milliseconds
    | stopRequested => exact Nat.le_refl _

/-- Every call is noted with its instant. -/
theorem calls_call (stage : Stage Manager)
    (respond : Manager → (call : Call) → call.Answer × Manager) (call : Call) :
    (stage.call respond call).2.calls = (call, stage.now) :: stage.calls := by
  obtain ⟨manager, called⟩ := stage.exists_call_eq respond call
  rw [called]
  rfl

/-- A pause leaves the manager alone. -/
theorem manager_sleep (stage : Stage Manager) (milliseconds : Nat) :
    (stage.sleep milliseconds).2.manager = stage.manager := by
  have slept := stage.slept_sleep milliseconds
  generalize stage.sleep milliseconds = after at slept
  cases slept <;> rfl

/-- A pause notes no call. -/
theorem calls_sleep (stage : Stage Manager) (milliseconds : Nat) :
    (stage.sleep milliseconds).2.calls = stage.calls := by
  have slept := stage.slept_sleep milliseconds
  generalize stage.sleep milliseconds = after at slept
  cases slept <;> rfl

/-- No call that was noted is forgotten. -/
theorem calls_suffix_hold (session : Session First) :
    stage.calls <:+ (stage.hold respond session).2.calls := by
  induction session generalizing stage with
  | done result => exact List.suffix_rfl
  | ask asked resume inductionHypothesis =>
    refine List.IsSuffix.trans ?_ (inductionHypothesis _)
    cases asked with
    | call made =>
      change stage.calls <:+ (stage.call respond made).2.calls
      rw [calls_call]
      exact List.suffix_cons _ _
    | now => exact List.suffix_rfl
    | sleep milliseconds =>
      change stage.calls <:+ (stage.sleep milliseconds).2.calls
      simp only [calls_sleep, List.suffix_refl]
    | stopRequested => exact List.suffix_rfl

section Rounds

open Wait

variable {tolerates : Tolerance} {component : Option Component} {transition : Transition}
  {times : WaitTimes} {deadline : Option Nat} {again : Option (Unit → Procedure Observation)}

/-- A look at the status is one call, whose answer is read. -/
theorem hold_observe :
    stage.hold respond (observe tolerates component).run =
      (reading tolerates component (stage.call respond (.getStatus component)).1,
        (stage.call respond (.getStatus component)).2) := by
  rw [observe_run]
  rfl

/-- A pause that is cut short cancels on account of the component. -/
theorem hold_rest (milliseconds : Nat) :
    stage.hold respond (Procedure.rest component milliseconds).run =
      (if (stage.sleep milliseconds).1 then .ok () else .error (.cancelled component),
        (stage.sleep milliseconds).2) := by
  rw [Procedure.rest_run]
  rfl

/-- What comes behind a pause is held if all of it passes. -/
theorem hold_rest_bind (stage : Stage Manager) (milliseconds : Nat)
    (next : Unit → Procedure First) :
    stage.hold respond (Procedure.rest component milliseconds >>= next).run =
      if (stage.sleep milliseconds).1 then (stage.sleep milliseconds).2.hold respond (next ()).run
      else (.error (.cancelled component), (stage.sleep milliseconds).2) := by
  have rested : stage.hold respond (Procedure.rest component milliseconds).run = _ :=
    hold_rest milliseconds
  cases passed : (stage.sleep milliseconds).1 with
  | true =>
    rw [passed] at rested
    exact hold_bind_of_ok rested
  | false =>
    rw [passed] at rested
    exact hold_bind_of_error rested

/-- A look at the clock, in front of what is done with what it shows. -/
theorem hold_now_bind {next : Nat → Procedure First} :
    stage.hold respond (liftM Session.now >>= next : Procedure First).run =
      stage.hold respond (next stage.now).run :=
  rfl

/-- A round whose probe decides ends with what it decides on. -/
theorem hold_pollRound_of_decides {outcome : Except Failure Observation}
    (decides : Decides tolerates component transition
      (stage.call respond (.getStatus component)).1 outcome) :
    stage.hold respond (pollRound tolerates component transition times deadline again).run =
      (outcome, (stage.call respond (.getStatus component)).2) := by
  have seen {observed : Observation}
      (sees : Sees tolerates component (stage.call respond (.getStatus component)).1 observed) :
      stage.hold respond (observe tolerates component).run =
        (.ok observed, (stage.call respond (.getStatus component)).2) := by
    rw [hold_observe, sees_iff_reading.1 sees]
  have unread {failure : Failure} (reads : reading tolerates component
      (stage.call respond (.getStatus component)).1 = .error failure) :
      stage.hold respond (observe tolerates component).run =
        (.error failure, (stage.call respond (.getStatus component)).2) := by
    rw [hold_observe, reads]
  generalize (stage.call respond (.getStatus component)).1 = answer at decides seen unread
  cases decides with
  | arrived sees reached =>
    rw [pollRound, hold_bind_of_ok (seen sees), if_pos reached]
    rfl
  | strayed sees unreached unexpected =>
    rw [pollRound, hold_bind_of_ok (seen sees), if_neg unreached, if_pos unexpected]
    rfl
  | unlisted account unlisted =>
    subst account
    exact hold_bind_of_error (unread (by simp [reading, observationOf, unlisted]))
  | failed untolerated =>
    exact hold_bind_of_error (unread (by simp [reading, untolerated]))

/-- A round whose probe leaves open how the wait ends, and that has time left, goes on behind a
pause. -/
theorem hold_pollRound_of_leavesOpen {observed : Observation}
    (leaves : LeavesOpen tolerates component transition
      (stage.call respond (.getStatus component)).1 observed) :
    stage.hold respond (pollRound tolerates component transition times deadline again).run =
      match again, pauseAt? times deadline stage.now with
      | some next, some milliseconds =>
        (stage.call respond (.getStatus component)).2.hold respond
          (Procedure.rest component milliseconds >>= next).run
      | _, _ =>
        (.error (.waitTimeout component transition.target times.timeout (some observed)),
          (stage.call respond (.getStatus component)).2) := by
  have seen : stage.hold respond (observe tolerates component).run =
      (.ok observed, (stage.call respond (.getStatus component)).2) := by
    rw [hold_observe, sees_iff_reading.1 leaves.sees]
  rw [pollRound, hold_bind_of_ok seen, if_neg leaves.unreached]
  simp only [leaves.pending, not_true, if_false]
  rw [hold_now_bind, now_call]
  cases again with
  | none => rfl
  | some next =>
    cases pauseAt? times deadline stage.now with
    | none => rfl
    | some milliseconds => rfl

end Rounds

end Simulation.Stage

end FabricUpgrade
