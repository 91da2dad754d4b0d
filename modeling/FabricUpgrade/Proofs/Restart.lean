import FabricUpgrade.Proofs.FailStop

/-!
# Restarts of the manager

While the management plane is upgraded its manager restarts, and its status cannot be asked for.  A
wait takes that for progress: `Run.overlooks_execute` says that to a wait a failed request is as good
as one that was answered with the management plane in progress.  The first probe of a component makes
no such allowance.
-/

namespace FabricUpgrade

open Program Session

namespace Session

/-- The exchange is a status request for the management plane that fails because its manager
restarts. -/
inductive Restarted : Exchange Question Answer → ManagerError → Prop where
  | probe (error : ManagerError) (restarts : error.isRestart = true) :
      Restarted ⟨.call (.getStatus (some .management)), .error error⟩ error

/-- A summary that shows the management plane in progress, with an error for its details. -/
def underway (error : ManagerError) : Summary :=
  ⟨.inProgress, [⟨Component.management.wire, .inProgress, some error.message, none⟩]⟩

/-- The answer that a manager would give that shows progress where it restarts. -/
def calm : (asked : Question) → Answer asked → Answer asked
  | .call (.getStatus (some .management)), .error error =>
    if error.isRestart then .ok (underway error) else .error error
  | _, answer => answer

/-- While a wait goes on, a failed request is like one that shows progress. -/
inductive Alike (past : History) : (asked : Question) → Answer asked → Answer asked → Prop where
  | restart (error : ManagerError) (waiting : Paused past) (restarts : error.isRestart = true) :
      Alike past (.call (.getStatus (some .management))) (.error error) (.ok (underway error))

/-- An answer that shows the management plane restarting is calmed to one that it is underway. -/
theorem calm_restart {error : ManagerError} (restarts : error.isRestart = true) :
    calm (.call (.getStatus (some .management))) (.error error) = .ok (underway error) :=
  if_pos restarts

/-- Only the answers to failed requests for the status of the management plane are changed. -/
theorem calm_eq_or_restarted (asked : Question) (answer : Answer asked) :
    calm asked answer = answer ∨ ∃ error, Restarted ⟨asked, answer⟩ error := by
  fun_cases calm asked answer with
  | case1 error restarts => exact .inr ⟨error, .probe error restarts⟩
  | case2 error lasting => exact .inl (if_neg lasting)
  | case3 => exact .inl (calm.eq_2 asked answer ‹_›)

/-- An answer that shows a restart is like the calm one where a wait has paused. -/
theorem Restarted.alike {past : History} {exchange : Exchange Question Answer}
    {error : ManagerError} (restarted : Restarted exchange error) (waiting : Paused past) :
    Alike past exchange.question exchange.answer (calm exchange.question exchange.answer) := by
  obtain ⟨error, restarts⟩ := restarted
  exact calm_restart restarts ▸ Alike.restart error waiting restarts

/-- A restart that no wait makes allowance for ends a run. -/
theorem Restarted.fatal {past : History} {exchange : Exchange Question Answer}
    {error : ManagerError} (restarted : Restarted exchange error) (unpaused : ¬ Paused past) :
    Fatal past exchange (.call .statusGet (some .management) none error) := by
  obtain ⟨error, restarts⟩ := restarted
  refine .call (.getStatus (some .management)) error ?_
  rintro (_ | ⟨_, waiting, _⟩)
  exact unpaused waiting

end Session

namespace Wait

/-- What shows progress reads like a restart that is tolerated. -/
theorem reading_underway (error : ManagerError) (restarts : error.isRestart = true) :
    reading .managementRestart (some .management) (.ok (underway error)) =
      reading .managementRestart (some .management) (.error error) := by
  simp [reading, observationOf, underway, Summary.find?, Tolerance.managementRestart, restarts]

variable {past : History} {component : Option Component} {transition : Transition}
  {times : WaitTimes}

theorem overlooks_observe :
    (observe .managementRestart component).run.Overlooks Alike past := by
  rw [observe_run]
  refine ⟨?_, fun answer => trivial⟩
  rintro _ _ ⟨error, _, restarts⟩
  exact congrArg Program.done (reading_underway error restarts).symm

/-- A probe on its own takes no error for progress, so it has to come outside waits. -/
theorem overlooks_probe (unpaused : ¬ Paused past) : (probe component).run.Overlooks Alike past := by
  rw [probe, observe_run]
  refine overlooks_ask ?_ fun answer => trivial
  rintro _ _ ⟨_, waiting, _⟩
  exact unpaused waiting

theorem overlooks_rest {milliseconds : Nat} :
    (Procedure.rest component milliseconds).run.Overlooks Alike past := by
  rw [Procedure.rest_run]
  exact overlooks_ask nofun fun passed => by cases passed <;> trivial

/-- A round overlooks whether answers were calmed if what it goes on with does. -/
theorem overlooks_pollRound {deadline : Option Nat} {again : Option (Unit → Procedure Observation)}
    (goesOn : ∀ next ∈ again, ∀ past, (next ()).run.Overlooks Alike past) :
    (pollRound .managementRestart component transition times deadline again).run.Overlooks Alike
      past := by
  refine overlooks_bind overlooks_observe fun past observed => ?_
  by_cases reached : observed.status ∈ transition.target
  · simp only [reached, if_true]
    trivial
  · simp only [reached, if_false]
    by_cases pending : observed.status ∈ transition.pending
    · simp only [pending, not_true, if_false]
      refine overlooks_question_bind nofun fun now => ?_
      cases again with
      | none => trivial
      | some next =>
        cases pauseAt? times deadline now with
        | none => trivial
        | some milliseconds => exact overlooks_bind overlooks_rest fun past _ => goesOn next rfl past
    · simp only [pending, not_false_iff, if_true]
      trivial

/-- However many rounds are left, polling overlooks whether answers were calmed. -/
theorem overlooks_pollUntil {deadline : Option Nat} (bound : Nat) :
    (pollUntil .managementRestart component transition times deadline bound).run.Overlooks Alike
      past := by
  induction bound generalizing past with
  | zero => exact overlooks_pollRound (by simp)
  | succ bound inductionHypothesis =>
    refine overlooks_pollRound fun next member past => ?_
    obtain rfl := Option.some.inj member
    exact inductionHypothesis

theorem overlooks_await :
    (await .managementRestart component transition times).run.Overlooks Alike past :=
  overlooks_ask nofun fun _ => overlooks_bind overlooks_rest fun _ _ => overlooks_pollUntil _

end Wait

namespace Run

section Steps

variable {run : Run} {past : History} {component : Component}

/-- A call that does not ask for the status overlooks whether answers were calmed. -/
theorem overlooks_perform {call : Call} {account : Option Component} {target : Option String}
    (unasking : ∀ asked, call ≠ .getStatus asked) :
    (Procedure.perform call account target).run.Overlooks Alike past := by
  rw [Procedure.perform_run]
  refine overlooks_ask ?_ fun answer => by cases answer <;> trivial
  rintro _ _ ⟨_⟩
  exact unasking _ rfl

theorem overlooks_startChecks {checked : List Component} :
    (startChecks checked).Overlooks Alike past := by
  induction checked generalizing past with
  | nil => trivial
  | cons component rest inductionHypothesis =>
    refine overlooks_ask nofun fun answer => ?_
    cases answer with
    | ok _ =>
      change Overlooks _ ((startChecks rest).andThen fun started => .done (component :: started)) _
      exact overlooks_andThen inductionHypothesis fun past _ => trivial
    | error _ => exact inductionHypothesis

/-- No step of a run can tell a restart during a wait from progress. -/
def overlooking (run : Run) : run.Argument where
  holds _ _ := True
  leads _ step past := step.run.Overlooks Alike past
  leads_pure _ _ := trivial
  leads_bind begins continues := overlooks_bind begins fun past value => continues past value trivial
  leads_stop _ goesOn := by
    refine overlooks_question_bind nofun fun stop => ?_
    cases stop with
    | true => trivial
    | false => exact goesOn _ trivial not_paused_asked
  leads_probe _ unpaused := Wait.overlooks_probe unpaused
  leads_perform unasking _ _ := overlooks_perform unasking
  leads_await _ _ _ := Wait.overlooks_await
  leaves _ := trivial
  leads_checks _ := overlooks_andThen overlooks_startChecks fun _ _ => trivial

/-- An execution cannot tell a restart during a wait from progress. -/
theorem overlooks_execute (run : Run) : (run.execute {}).run.Overlooks Alike [] :=
  run.overlooking.execute trivial

end Steps

/-- An execution ends as if each restart of the manager had been answered with the management plane
in progress exactly if all of them come during waits.  Any other one ends it. -/
theorem execute_calm_iff_paused (run : Run) (exchanges : History) (result : Except Failure Report)
    (converses : Converses (run.execute {}).run exchanges result) :
    (Converses (run.execute {}).run (exchanges.map fun exchange => exchange.changed calm) result ↔
      ∀ earlier exchange later error, exchanges = earlier ++ exchange :: later →
        Restarted exchange error → Paused earlier) ∧
    ∀ earlier exchange later error, exchanges = earlier ++ exchange :: later →
      Restarted exchange error → ¬ Paused earlier →
        later = [] ∧ result = .error (.call .statusGet (some .management) none error) := by
  have ends : ∀ earlier exchange later error, exchanges = earlier ++ exchange :: later →
      Restarted exchange error → ¬ Paused earlier →
        later = [] ∧ result = .error (.call .statusGet (some .management) none error) :=
    fun earlier exchange later error split restarted unpaused =>
      ((tells_execute run).concludes converses).of_fatal split (restarted.fatal unpaused)
  refine ⟨⟨fun calmed earlier exchange later error split restarted => ?_, fun waiting => ?_⟩, ends⟩
  · by_contra unpaused
    obtain ⟨rfl, rfl⟩ := ends earlier exchange later error split restarted unpaused
    -- The calm run would fail with a failed call although its last call was answered.
    obtain ⟨past, call, failed⟩ := Told.of_call ((tells_execute run).concludes calmed)
    obtain ⟨error, restarts⟩ := restarted
    have answered : (⟨.call (.getStatus (some .management)), .error error⟩ :
        Exchange Question Answer).changed calm =
          ⟨.call (.getStatus (some .management)), .ok (underway error)⟩ :=
      congrArg (Exchange.mk _) (calm_restart restarts)
    simp only [split, List.nil_append, List.map_append, List.map_cons, List.map_nil,
      answered] at failed
    cases (List.append_inj' failed rfl).2
  · refine (overlooks_execute run).converses converses calm fun earlier exchange later split => ?_
    rcases calm_eq_or_restarted exchange.question exchange.answer with same | ⟨error, restarted⟩
    · exact .inl same
    · exact .inr (restarted.alike (waiting earlier exchange later error split restarted))

/-- The run that goes on with an upgrade of which only the management plane is left. -/
def resumedPast : History :=
  let halfway : Summary := ⟨.inProgress, [⟨"EDGE", .success, none, none⟩,
    ⟨"HOST", .success, none, none⟩, ⟨"MP", .inProgress, none, none⟩]⟩
  [⟨.stopRequested, false⟩, ⟨.call (.getStatus (some .edge)), .ok halfway⟩,
    ⟨.stopRequested, false⟩, ⟨.call (.getStatus (some .host)), .ok halfway⟩,
    ⟨.stopRequested, false⟩]

/-- The manager restarts when the management plane is first looked at. -/
def resumedOutage : Exchange Question Answer :=
  ⟨.call (.getStatus (some .management)), .error (.serviceUnavailable "restarting")⟩

/-- The outage ends the resumed run at its first look at the management plane, and with a calm
answer it would not have ended so. -/
theorem execute_calm_iff_paused_resumed :
    ∃ result, Converses (({} : Run).execute {}).run (resumedPast ++ [resumedOutage]) result ∧
      result = .error (.call .statusGet (some .management) none (.serviceUnavailable "restarting")) ∧
      ¬ Converses (({} : Run).execute {}).run
        ((resumedPast ++ [resumedOutage]).map fun exchange => exchange.changed calm) result := by
  have converses : Converses (({} : Run).execute {}).run (resumedPast ++ [resumedOutage])
      (.error (.call .statusGet (some .management) none (.serviceUnavailable "restarting"))) :=
    .ask _ (.ask _ (.ask _ (.ask _ (.ask _ (.ask _ (.done _))))))
  have unpaused : ¬ Paused (resumedPast.dropLast ++ [⟨.stopRequested, false⟩]) := not_paused_asked
  have restarted : Restarted resumedOutage (.serviceUnavailable "restarting") := .probe _ rfl
  obtain ⟨calmed, ends⟩ := execute_calm_iff_paused {} _ _ converses
  refine ⟨_, converses, (ends resumedPast resumedOutage [] _ rfl restarted unpaused).2, ?_⟩
  exact fun same => unpaused (calmed.1 same resumedPast resumedOutage [] _ rfl restarted)

/-- With the management plane in progress instead, the same run goes on and ends well. -/
theorem not_calm_resumed :
    ∃ failure, Converses (({} : Run).execute {}).run (resumedPast ++ [resumedOutage])
        (.error failure) ∧
      ¬ Converses (({} : Run).execute {}).run
        ((resumedPast ++ [resumedOutage]).map fun exchange => exchange.changed calm)
        (.error failure) ∧
      ∃ later report, Converses (({} : Run).execute {}).run
        (((resumedPast ++ [resumedOutage]).map fun exchange => exchange.changed calm) ++ later)
        (.ok report) := by
  let upgraded : Summary := ⟨.success, [⟨"MP", .success, none, none⟩]⟩
  let later : History := [⟨.now, (0 : Nat)⟩, ⟨.sleep 30000, true⟩,
    ⟨.call (.getStatus (some .management)), .ok upgraded⟩]
  have goesOn : Converses (({} : Run).execute {}).run
      (((resumedPast ++ [resumedOutage]).map fun exchange => exchange.changed calm) ++ later)
      (.ok ⟨[⟨.edge, .alreadySucceeded, some ⟨.success, ""⟩⟩,
        ⟨.host, .alreadySucceeded, some ⟨.success, ""⟩⟩,
        ⟨.management, .completed, some ⟨.success, ""⟩⟩], []⟩) :=
    .ask _ (.ask _ (.ask _ (.ask _ (.ask _ (.ask _ (.ask _ (.ask _ (.ask _ (.done _)))))))))
  refine ⟨_, .ask _ (.ask _ (.ask _ (.ask _ (.ask _ (.ask _ (.done _)))))), fun calmed => ?_,
    later, _, goesOn⟩
  have common :
      ((resumedPast ++ [resumedOutage]).map fun exchange => exchange.changed calm) ++ later =
        ((resumedPast ++ [resumedOutage]).map fun exchange => exchange.changed calm) ++ later ++
          [] :=
    (List.append_nil _).symm
  exact absurd (calmed.unique goesOn common).2 nofun

end Run

end FabricUpgrade
