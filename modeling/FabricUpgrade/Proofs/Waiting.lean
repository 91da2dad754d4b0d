import FabricUpgrade.Proofs.Probe

/-!
# What waits and calls obey

The steps of an upgrade are calls that have to succeed, pauses and waits.  `Wait.await_obeys_ended`
is the only induction over the rounds of a wait: it says with which exchange a wait ends and how, and
that whatever its questions keep up is there in front of that exchange.
-/

namespace FabricUpgrade

open Program Session

namespace Procedure

variable {rule : Rule Question Answer} {past : History} {component : Option Component}

/-- A call that has to succeed ends with its reply or fails with its error. -/
theorem perform_run (call : Call) (component : Option Component) (target : Option String) :
    (perform call component target).run =
      .ask (.call call) fun
        | .ok reply => .done (.ok reply)
        | .error error => .done (.error (.call call.operation component target error)) := by
  refine congrArg (Program.ask _) (funext fun answer => ?_)
  cases answer <;> rfl

/-- A call obeys a rule that permits it, and promises what holds after its reply or its error. -/
theorem obeys_perform {call : Call} {target : Option String}
    {ends : History → Except Failure call.Reply → Prop} (permitted : rule past (.call call))
    (replied : ∀ reply, ends (past ++ [⟨.call call, .ok reply⟩]) (.ok reply))
    (failed : ∀ error, ends (past ++ [⟨.call call, .error error⟩])
      (.error (.call call.operation component target error))) :
    (perform call component target).run.Obeys rule ends past := by
  rw [perform_run]
  refine ⟨permitted, fun answer => ?_⟩
  cases answer with
  | ok reply => exact replied reply
  | error error => exact failed error

/-- A pause ends when its time has passed, or it cancels when it is cut short. -/
theorem rest_run (component : Option Component) (milliseconds : Nat) :
    (rest component milliseconds).run =
      .ask (.sleep milliseconds) fun passed : Bool =>
        .done (if passed then .ok () else .error (.cancelled component)) := by
  refine congrArg (Program.ask _) (funext fun passed => ?_)
  cases passed <;> rfl

/-- A pause obeys a rule that permits it, and promises what holds after it has passed or was cut
short. -/
theorem obeys_rest {milliseconds : Nat} {ends : History → Except Failure Unit → Prop}
    (permitted : rule past (.sleep milliseconds))
    (passed : ends (past ++ [⟨.sleep milliseconds, true⟩]) (.ok ()))
    (stopped : ends (past ++ [⟨.sleep milliseconds, false⟩]) (.error (.cancelled component))) :
    (rest component milliseconds).run.Obeys rule ends past := by
  rw [rest_run]
  refine ⟨permitted, fun reply => ?_⟩
  cases reply with
  | true => exact passed
  | false => exact stopped

end Procedure

/-- The last thing that was done is a pause, and all of it has passed. -/
def Session.Paused (past : History) : Prop :=
  ∃ earlier milliseconds, past = earlier ++ [⟨.sleep milliseconds, true⟩]

/-- The questions of a wait for a component. -/
inductive Session.Waits (component : Option Component) : Question → Prop where
  | probe : Waits component (.call (.getStatus component))
  | now : Waits component .now
  | sleep (milliseconds : Nat) : Waits component (.sleep milliseconds)

namespace Wait

variable {tolerates : Tolerance} {component : Option Component} {transition : Transition}
  {times : WaitTimes} {rule : Rule Question Answer} {past : History}
  {ends : History → Except Failure Observation → Prop}

/-- A look at the status obeys a rule that permits it, and promises what holds of what is read. -/
theorem obeys_observe (permitted : rule past (.call (.getStatus component)))
    (answered : ∀ answer : Except ManagerError Summary,
      ends (past ++ [⟨.call (.getStatus component), answer⟩])
        (reading tolerates component answer)) :
    (observe tolerates component).run.Obeys rule ends past := by
  rw [observe_run]
  exact ⟨permitted, answered⟩

/-- How a wait may end, where `kept` is what its questions keep up for as long as it goes on. -/
inductive Ended (tolerates : Tolerance) (component : Option Component) (transition : Transition)
    (times : WaitTimes) (kept : History → Prop) :
    History → Except Failure Observation → Prop where
  /-- A probe shows a status of the target. -/
  | arrived {earlier : History} {answer : Except ManagerError Summary} {observed : Observation}
      (holds : kept earlier) (paused : Paused earlier)
      (reads : reading tolerates component answer = .ok observed)
      (reached : observed.status ∈ transition.target) :
      Ended tolerates component transition times kept
        (earlier ++ [⟨.call (.getStatus component), answer⟩]) (.ok observed)
  /-- A probe fails, or its summary has no record of the component. -/
  | unread {earlier : History} {answer : Except ManagerError Summary} {failure : Failure}
      (holds : kept earlier) (paused : Paused earlier)
      (reads : reading tolerates component answer = .error failure) :
      Ended tolerates component transition times kept
        (earlier ++ [⟨.call (.getStatus component), answer⟩]) (.error failure)
  /-- A probe shows a status that is neither waited for nor waited through. -/
  | strayed {earlier : History} {answer : Except ManagerError Summary} {observed : Observation}
      (holds : kept earlier) (paused : Paused earlier)
      (reads : reading tolerates component answer = .ok observed)
      (unreached : observed.status ∉ transition.target)
      (unexpected : observed.status ∉ transition.pending) :
      Ended tolerates component transition times kept
        (earlier ++ [⟨.call (.getStatus component), answer⟩])
        (.error (.unexpectedStatus component transition.target observed))
  /-- The time is up after a probe. -/
  | expired {earlier : History} {answer : Except ManagerError Summary} {observed : Observation}
      (now : Nat) (holds : kept earlier) (paused : Paused earlier)
      (reads : reading tolerates component answer = .ok observed)
      (unreached : observed.status ∉ transition.target)
      (pending : observed.status ∈ transition.pending) :
      Ended tolerates component transition times kept
        (earlier ++ [⟨.call (.getStatus component), answer⟩] ++ [⟨.now, now⟩])
        (.error (.waitTimeout component transition.target times.timeout (some observed)))
  /-- A pause is broken off. -/
  | stopped {earlier : History} (milliseconds : Nat) (holds : kept earlier) :
      Ended tolerates component transition times kept
        (earlier ++ [⟨.sleep milliseconds, false⟩]) (.error (.cancelled component))

section Rounds

variable {kept : History → Prop}
  (permits : ∀ past question, kept past → Waits component question → rule past question)
  (slept : ∀ past milliseconds, kept past → kept (past ++ [⟨.sleep milliseconds, true⟩]))
  (timed : ∀ past (now : Nat), kept past → kept (past ++ [⟨.now, now⟩]))
  (probed : ∀ past answer observed, kept past → Paused past →
    reading tolerates component answer = .ok observed →
    kept (past ++ [⟨.call (.getStatus component), answer⟩]))

include permits slept

/-- A pause of a wait, in front of what comes after it. -/
theorem obeys_rest_bind {First : Type} {milliseconds : Nat} {next : Unit → Procedure First}
    {ends : History → Except Failure First → Prop} (holds : kept past)
    (goesOn : ∀ past, kept past → Paused past → (next ()).run.Obeys rule ends past)
    (stops : ends (past ++ [⟨.sleep milliseconds, false⟩]) (.error (.cancelled component))) :
    (Procedure.rest component milliseconds >>= next).run.Obeys rule ends past := by
  refine obeys_andThen.2 (Procedure.obeys_rest (permits _ _ holds (.sleep _)) ?_ stops)
  exact goesOn _ (slept past milliseconds holds) ⟨past, milliseconds, rfl⟩

include timed probed

/-- One round of a wait, given how the rounds behind it end. -/
theorem pollRound_obeys {deadline : Option Nat} {again : Option (Unit → Procedure Observation)}
    (goesOn : ∀ next ∈ again, ∀ past, kept past → Paused past →
      (next ()).run.Obeys rule (Ended tolerates component transition times kept) past)
    (holds : kept past) (paused : Paused past) :
    (pollRound tolerates component transition times deadline again).run.Obeys rule
      (Ended tolerates component transition times kept) past := by
  -- After the probe the outcome is what its answer is read as.
  let middle : History → Except Failure Observation → Prop := fun past outcome =>
    ∃ earlier answer, past = earlier ++ [⟨.call (.getStatus component), answer⟩] ∧ kept earlier ∧
      Paused earlier ∧ reading tolerates component answer = outcome
  have asked : (observe tolerates component).run.Obeys rule middle past :=
    obeys_observe (permits _ _ holds .probe) fun answer => ⟨past, answer, rfl, holds, paused, rfl⟩
  refine obeys_bind asked ?_ ?_
  · rintro _ observed ⟨earlier, answer, rfl, holds, paused, reads⟩
    by_cases reached : observed.status ∈ transition.target
    · simp only [reached, if_true]
      exact .arrived holds paused reads reached
    · simp only [reached, if_false]
      by_cases pending : observed.status ∈ transition.pending
      · simp only [pending, not_true, if_false]
        have kept := probed _ _ _ holds paused reads
        refine obeys_question_bind (permits _ _ kept .now) fun now => ?_
        cases again with
        | none => exact .expired now holds paused reads reached pending
        | some next =>
          cases pauseAt? times deadline now with
          | none => exact .expired now holds paused reads reached pending
          | some milliseconds =>
            have keptOn := timed _ now kept
            exact obeys_rest_bind permits slept keptOn (goesOn next rfl)
              (.stopped milliseconds keptOn)
      · simp only [pending, not_false_iff, if_true]
        exact .strayed holds paused reads reached pending
  · rintro _ failure ⟨earlier, answer, rfl, holds, paused, reads⟩
    exact .unread holds paused reads

/-- However many rounds are left, polling obeys the rule of the wait and ends as the wait may. -/
theorem pollUntil_obeys {deadline : Option Nat} (bound : Nat) (holds : kept past)
    (paused : Paused past) :
    (pollUntil tolerates component transition times deadline bound).run.Obeys rule
      (Ended tolerates component transition times kept) past := by
  induction bound generalizing past with
  | zero => exact pollRound_obeys permits slept timed probed (by simp) holds paused
  | succ bound inductionHypothesis =>
    refine pollRound_obeys permits slept timed probed (fun next member past holds paused => ?_)
      holds paused
    obtain rfl := Option.some.inj member
    exact inductionHypothesis holds paused

/-- A wait asks only the questions of waits, and it ends right after the exchange that decides how
it ends.  What its questions keep up is there in front of that exchange. -/
theorem await_obeys_ended (holds : kept past) :
    (await tolerates component transition times).run.Obeys rule
      (Ended tolerates component transition times kept) past := by
  refine obeys_question_bind (permits _ _ holds .now) fun start => ?_
  have begun := timed past start holds
  exact obeys_rest_bind permits slept begun
    (fun past holds paused => pollUntil_obeys permits slept timed probed _ holds paused)
    (.stopped _ begun)

end Rounds

/-- The case of `await_obeys_ended` where whatever a wait asks keeps it up: it is there when the
wait arrives, right in front of the probe it arrives with, and when it fails. -/
theorem await_obeys {kept : History → Prop}
    (permits : ∀ past question, kept past → Waits component question → rule past question)
    (keeps : ∀ past (exchange : Exchange Question Answer), kept past →
      Waits component exchange.question → kept (past ++ [exchange]))
    (arrives : ∀ past (answer : Except ManagerError Summary) observed, kept past →
      reading tolerates component answer = .ok observed → observed.status ∈ transition.target →
      ends (past ++ [⟨.call (.getStatus component), answer⟩]) (.ok observed))
    (fails : ∀ past failure, kept past → ends past (.error failure)) (holds : kept past) :
    (await tolerates component transition times).run.Obeys rule ends past := by
  refine (await_obeys_ended permits
    (fun past milliseconds holds => keeps past _ holds (.sleep milliseconds))
    (fun past now holds => keeps past _ holds .now)
    (fun past answer _ holds _ _ => keeps past _ holds .probe) holds).mono
      (fun _ _ permitted => permitted) ?_
  rintro _ _ (⟨holds, _, reads, reached⟩ | ⟨holds, _, _⟩ | ⟨holds, _, _, _, _⟩ |
    ⟨now, holds, _, _, _, _⟩ | ⟨_, holds⟩)
  · exact arrives _ _ _ holds reads reached
  · exact fails _ _ (keeps _ _ holds .probe)
  · exact fails _ _ (keeps _ _ holds .probe)
  · exact fails _ _ (keeps _ _ (keeps _ _ holds .probe) .now)
  · exact fails _ _ (keeps _ _ holds (.sleep _))

end Wait

namespace Transition

/-- A wait for a stable status ends with one. -/
theorem mem_untilStable_target {status : Status} :
    status ∈ untilStable.target ↔ status.isStable = true := by
  cases status <;> decide

/-- A wait for an upgrade ends with success, or with a pause where a part is left for later. -/
theorem mem_ofUpgrade_target {staysPartial : Bool} {status : Status} :
    status ∈ (ofUpgrade staysPartial).target ↔
      status = .success ∨ staysPartial = true ∧ status = .paused := by
  cases staysPartial <;> cases status <;> decide

end Transition

end FabricUpgrade
