import Mathlib.Algebra.Order.Floor.Div
import FabricUpgrade.Proofs.Watching

/-!
# How long a wait takes

On a side that answers at once the clock moves with the pauses only.  Then every pause between two
probes of a wait takes a whole interval, but for the last one, which ends at the deadline.  This bounds
the probes of the wait and the time that it takes, whatever it is answered (`Wait.await_inTime`).
-/

namespace FabricUpgrade

open Program Session
open Plant (elapsed elapsed_snoc passed)

namespace Session

/-- How many status requests have been made. -/
def probes (exchanges : History) : Nat :=
  exchanges.countP fun exchange =>
    match exchange.question with
    | .call (.getStatus _) => true
    | _ => false

/-- The clock has moved with the pauses only, and nobody tells to stop. -/
def OnTime (start : Nat) (earlier : History) : Exchange Question Answer → Prop
  | ⟨.call _, _⟩ => True
  | ⟨.now, (now : Nat)⟩ => now = start + elapsed earlier
  | ⟨.sleep _, (all : Bool)⟩ => all = true
  | ⟨.stopRequested, (stop : Bool)⟩ => stop = false

/-- The answers of a side whose calls take no time and that tells nobody to stop.  What it replies to
a call may depend on all that has happened before. -/
def promptAnswer (reply : History → (call : Call) → call.Answer) (start : Nat) (past : History) :
    (asked : Question) → Answer asked
  | .call made => reply past made
  | .now => start + elapsed past
  | .sleep _ => true
  | .stopRequested => false

/-- Whatever is answered promptly is answered on time. -/
theorem onTime_promptAnswer {reply : History → (call : Call) → call.Answer} {start : Nat}
    (past : History) (asked : Question) :
    OnTime start past ⟨asked, promptAnswer reply start past asked⟩ := by
  cases asked <;> trivial

@[simp]
theorem elapsed_nil : elapsed [] = 0 :=
  rfl

/-- The time that two stretches take adds up. -/
@[simp]
theorem elapsed_append (first second : History) :
    elapsed (first ++ second) = elapsed first + elapsed second := by
  induction second using List.reverseRecOn with
  | nil => rw [List.append_nil, elapsed_nil, Nat.add_zero]
  | append_singleton second exchange inductionHypothesis =>
    rw [← List.append_assoc, elapsed_snoc, elapsed_snoc, inductionHypothesis, Nat.add_assoc]

/-- An exchange in front adds the time that it takes. -/
@[simp]
theorem elapsed_cons (exchange : Exchange Question Answer) (exchanges : History) :
    elapsed (exchange :: exchanges) = passed exchange + elapsed exchanges := by
  rw [← List.singleton_append, elapsed_append]
  simp [elapsed]

/-- What comes after some exchanges is on time from their end on. -/
theorem onTime_append {start : Nat} {before earlier : History} {exchange : Exchange Question Answer} :
    OnTime start (before ++ earlier) exchange ↔
      OnTime (start + elapsed before) earlier exchange := by
  obtain ⟨asked, answer⟩ := exchange
  cases asked with
  | now => simp only [OnTime, elapsed_append, Nat.add_assoc]
  | call _ => exact Iff.rfl
  | sleep _ => exact Iff.rfl
  | stopRequested => exact Iff.rfl

/-- Two stretches are on time exactly if the one is and the other is from when the one is over. -/
theorem throughout_onTime_append {start : Nat} {before after : History} :
    Throughout (OnTime start) (before ++ after) ↔
      Throughout (OnTime start) before ∧ Throughout (OnTime (start + elapsed before)) after := by
  rw [throughout_append_iff]
  exact and_congr_right fun _ =>
    ⟨fun holds => holds.mono fun _ _ => onTime_append.1, fun holds => holds.mono fun _ _ => onTime_append.2⟩

/-- An exchange and what follows it are on time exactly if it is and they are from when it is over. -/
theorem throughout_onTime_cons {start : Nat} {exchange : Exchange Question Answer}
    {exchanges : History} :
    Throughout (OnTime start) (exchange :: exchanges) ↔
      OnTime start [] exchange ∧ Throughout (OnTime (start + passed exchange)) exchanges := by
  have alone : Throughout (OnTime start) [exchange] ↔ OnTime start [] exchange := by
    have snoc : Throughout (OnTime start) ([] ++ [exchange]) ↔
        Throughout (OnTime start) [] ∧ OnTime start [] exchange := throughout_snoc_iff
    simpa [throughout_nil] using snoc
  rw [← List.singleton_append, throughout_onTime_append, alone]
  simp [elapsed]

end Session

namespace WaitTimes

variable (times : WaitTimes)

/-- The pauses of a wait are the intervals between its delay and its timeout, counted up. -/
theorem pauses_eq (positive : 1 ≤ times.interval) :
    times.pauses = (times.timeout - times.delay) ⌈/⌉ times.interval := by
  have step : times.step = 1000 * times.interval := by
    simp only [step, Wait.leastInterval]
    omega
  have thousands : (times.timeout * 1000 - times.delay * 1000 + (times.step - 1)) / 1000 =
      times.timeout - times.delay + times.interval - 1 := by omega
  rw [Nat.ceilDiv_eq_add_pred_div, ← thousands, Nat.div_div_eq_div_mul, ← step]
  rfl

end WaitTimes

/-!
## One wait
-/

namespace Wait

variable {tolerates : Tolerance} {component : Option Component} {transition : Transition}
  {times : WaitTimes} {own : History} {outcome : Except Failure Observation}

/-- The outcome says that the time of the wait is up. -/
def Expired (outcome : Except Failure Observation) : Prop :=
  ∃ component target seconds last, outcome = .error (.waitTimeout component target seconds last)

/-- A wait that saw something has not expired. -/
theorem not_expired_ok (observed : Observation) : ¬ Expired (.ok observed) := by
  rintro ⟨_, _, _, _, same⟩
  cases same

/-- What is read of an answer is never that a wait expired. -/
theorem not_expired_reading {answer : Except ManagerError Summary} :
    ¬ Expired (reading tolerates component answer) := by
  rintro ⟨_, _, _, _, same⟩
  cases answer with
  | ok summary =>
    cases component with
    | none => cases same
    | some component =>
      simp only [reading, observationOf] at same
      split at same <;> cases same
  | error error =>
    simp only [reading] at same
    split at same <;> cases same

/-- One round of a wait by its exchanges.  A round that ends with its probe or within its pause does
not say that the time is up; that is for a round that ends with its look at the clock, where there is
no pause left. -/
theorem pollRound_obeys_exchanges {deadline : Option Nat}
    {again : Option (Unit → Procedure Observation)} {past : History}
    {ends : History → Except Failure Observation → Prop}
    (decided : ∀ answer outcome, ¬ Expired outcome →
      ends (past ++ [⟨.call (.getStatus component), answer⟩]) outcome)
    (late : ∀ answer (shown : Nat) outcome, again = none ∨ pauseAt? times deadline shown = none →
      ends (past ++ [⟨.call (.getStatus component), answer⟩] ++ [⟨.now, shown⟩]) outcome)
    (stopped : ∀ answer (shown : Nat) milliseconds outcome, ¬ Expired outcome →
      ends (past ++ [⟨.call (.getStatus component), answer⟩] ++ [⟨.now, shown⟩] ++
        [⟨.sleep milliseconds, false⟩]) outcome)
    (goesOn : ∀ next ∈ again, ∀ answer (shown : Nat) milliseconds,
      pauseAt? times deadline shown = some milliseconds →
      (next ()).run.Obeys (fun _ _ => True) ends
        (past ++ [⟨.call (.getStatus component), answer⟩] ++ [⟨.now, shown⟩] ++
          [⟨.sleep milliseconds, true⟩])) :
    (pollRound tolerates component transition times deadline again).run.Obeys (fun _ _ => True)
      ends past := by
  let middle : History → Except Failure Observation → Prop := fun now outcome =>
    ∃ answer, now = past ++ [⟨.call (.getStatus component), answer⟩] ∧
      reading tolerates component answer = outcome
  have asked : (observe tolerates component).run.Obeys (fun _ _ => True) middle past :=
    obeys_observe trivial fun answer => ⟨answer, rfl, rfl⟩
  refine obeys_bind asked ?_ ?_
  · rintro _ observed ⟨answer, rfl, reads⟩
    by_cases reached : observed.status ∈ transition.target
    · simp only [reached, if_true]
      exact decided answer _ (not_expired_ok observed)
    · simp only [reached, if_false]
      by_cases pending : observed.status ∈ transition.pending
      · simp only [pending, not_true, if_false]
        refine obeys_question_bind trivial fun (shown : Nat) => ?_
        cases again with
        | none => exact late answer shown _ (.inl rfl)
        | some next =>
          cases paused : pauseAt? times deadline shown with
          | none => exact late answer shown _ (.inr paused)
          | some milliseconds =>
            refine obeys_andThen.2 (Procedure.obeys_rest trivial ?_ ?_)
            · exact goesOn next rfl answer shown milliseconds paused
            · refine stopped answer shown milliseconds _ ?_
              rintro ⟨_, _, _, _, ⟨⟩⟩
      · simp only [pending, not_false_iff, if_true]
        refine decided answer _ ?_
        rintro ⟨_, _, _, _, ⟨⟩⟩
  · rintro _ failure ⟨answer, rfl, reads⟩
    exact decided answer _ (reads ▸ not_expired_reading)

section Rounds

variable {start limit : Nat} {past now : History}

/-- What a wait up to an instant has cost by its end, counted from some exchanges on. -/
structure Cost (times : WaitTimes) (start limit : Nat) (past now : History)
    (outcome : Except Failure Observation) : Prop where
  /-- There is a probe at once and one after each pause that there is time for. -/
  asked : probes now ≤ probes past + 1 + times.pausesIn (limit - (start + elapsed past))
  paused : elapsed now ≤ elapsed past + (limit - (start + elapsed past))
  /-- It gives up only when the instant has come. -/
  expired : Expired outcome → limit ≤ start + elapsed now

/-- Where a wait ends, and what it has cost if it was on time. -/
def Within (times : WaitTimes) (start limit : Nat) (past now : History)
    (outcome : Except Failure Observation) : Prop :=
  past <+: now ∧ (Throughout (OnTime start) now → Cost times start limit past now outcome)

/-- There is a pause exactly before the deadline, and it is no longer than what is left. -/
theorem pauseAt?_eq_some_iff {milliseconds instant : Nat} :
    pauseAt? times (some limit) instant = some milliseconds ↔
      instant < limit ∧ milliseconds = min times.step (limit - instant) := by
  by_cases late : limit ≤ instant
  · simp [pauseAt?, late, Nat.not_lt_of_le late]
  · simp [pauseAt?, late, Nat.lt_of_not_le late, WaitTimes.step, eq_comm]

/-- In front of a probe and a pause the wait costs one of each more. -/
theorem Cost.before {later : History} (early : start + elapsed past < limit)
    (probed : probes later = probes past + 1)
    (slept : elapsed later =
      elapsed past + min times.step (limit - (start + elapsed past)))
    (cost : Cost times start limit later now outcome) :
    Cost times start limit past now outcome := by
  have left : 0 < limit - (start + elapsed past) := by omega
  have rest : limit - (start + elapsed later) = limit - (start + elapsed past) -
      min times.step (limit - (start + elapsed past)) := by omega
  refine ⟨?_, ?_, cost.expired⟩
  · have asked := cost.asked
    rw [rest, probed] at asked
    rw [times.pausesIn_of_pos left]
    omega
  · have paused := cost.paused
    omega

section Round

variable {answer : Except ManagerError Summary} {shown : Nat}

/-- A probe that decides ends the wait. -/
theorem within_probe (unexpired : ¬ Expired outcome) :
    Within times start limit past (past ++ [⟨.call (.getStatus component), answer⟩]) outcome := by
  refine ⟨List.prefix_append _ _, fun _ => ⟨?_, ?_, fun expired => absurd expired unexpired⟩⟩
  · simp [probes]
  · simp [passed]

/-- Behind a probe the clock shows the instant of it. -/
theorem shown_of_onTime (onTime : Throughout (OnTime start)
    (past ++ [⟨.call (.getStatus component), answer⟩] ++ [⟨.now, shown⟩])) :
    shown = start + elapsed past := by
  have last := (throughout_snoc_iff.1 onTime).2
  simpa [OnTime, passed] using last

/-- The wait ends behind a probe if the clock shows that it is late. -/
theorem within_late (late : shown = start + elapsed past → limit ≤ start + elapsed past) :
    Within times start limit past
      (past ++ [⟨.call (.getStatus component), answer⟩] ++ [⟨.now, shown⟩]) outcome := by
  refine ⟨by simp, fun onTime => ⟨?_, ?_, fun _ => ?_⟩⟩
  · simp [probes]
  · simp [passed]
  · simpa [passed] using late (shown_of_onTime onTime)

/-- The wait goes on behind a probe and a pause. -/
theorem Within.before (more : shown < limit)
    (within : Within times start limit
      (past ++ [⟨.call (.getStatus component), answer⟩] ++ [⟨.now, shown⟩]
        ++ [⟨.sleep (min times.step (limit - shown)), true⟩]) now outcome) :
    Within times start limit past now outcome := by
  obtain ⟨⟨rest, rfl⟩, cost⟩ := within
  refine ⟨by simp, fun onTime => ?_⟩
  obtain rfl := shown_of_onTime (throughout_append_iff.1 (throughout_append_iff.1 onTime).1).1
  exact (cost onTime).before more (by simp [probes]) (by simp [passed])

end Round

/-- A round that goes on only with time passing keeps within the deadline. -/
theorem pollRound_within {again : Option (Unit → Procedure Observation)}
    (last : again = none → limit ≤ start + elapsed past)
    (goesOn : ∀ next ∈ again, ∀ later, elapsed past < elapsed later →
      (next ()).run.Obeys (fun _ _ => True) (Within times start limit later) later) :
    (pollRound tolerates component transition times (some limit) again).run.Obeys (fun _ _ => True)
      (Within times start limit past) past := by
  refine pollRound_obeys_exchanges (fun _ _ => within_probe) ?_ ?_ ?_
  · rintro answer shown _ (ended | unpaused)
    · exact within_late fun _ => last ended
    · refine within_late ?_
      rintro rfl
      by_contra more
      rw [pauseAt?_eq_some_iff.2 ⟨Nat.lt_of_not_le more, rfl⟩] at unpaused
      cases unpaused
  · refine fun answer shown milliseconds _ _ => ⟨by simp, fun onTime => ?_⟩
    cases (throughout_snoc_iff.1 onTime).2
  · intro next member answer shown milliseconds paused
    obtain ⟨more, rfl⟩ := pauseAt?_eq_some_iff.1 paused
    have step := times.step_pos
    refine (goesOn next member _ ?_).mono (fun _ _ _ => trivial) fun _ _ within =>
      within.before more
    simp only [elapsed_append, elapsed_cons, elapsed_nil, passed]
    omega

/-- However many rounds are left, those that the deadline leaves time for keep within it. -/
theorem pollUntil_within {bound : Nat} (bounds : limit - (start + elapsed past) ≤ bound) :
    (pollUntil tolerates component transition times (some limit) bound).run.Obeys
      (fun _ _ => True) (Within times start limit past) past := by
  induction bound generalizing past with
  | zero => exact pollRound_within (fun _ => by omega) nofun
  | succ bound inductionHypothesis =>
    refine pollRound_within nofun ?_
    rintro _ ⟨⟩ later slept
    exact inductionHypothesis (by omega)

end Rounds

/-- A wait in the turn of a component that is in its time. -/
structure InTime (times : WaitTimes) (component : Component) (own : History) : Prop where
  /-- It is a wait for the component or the whole upgrade, and if its time is up, all of it has
  passed. -/
  awaited : ∃ tolerates account transition outcome,
    (∀ other, account = some other → other = component) ∧
      Converses (await tolerates account transition times).run own outcome ∧
      (Expired outcome → times.timeout * 1000 ≤ elapsed own)
  /-- There is one probe, and another one after each interval or part of one. -/
  probed : probes own ≤ 1 + (times.timeout - times.delay) ⌈/⌉ times.interval
  paused : elapsed own ≤ times.longest

/-- A wait looks at the clock, sleeps its delay and then polls. -/
theorem await_run (tolerates : Tolerance) (component : Option Component)
    (transition : Transition) (times : WaitTimes) :
    (await tolerates component transition times).run =
      .ask .now fun start : Nat => .ask (.sleep (times.delay * 1000)) fun passed : Bool =>
        if passed then
          let deadline := deadline? start times.timeout
          (pollUntil tolerates component transition times deadline
            (deadline.getD horizon - start)).run
        else .done (.error (.cancelled component)) := by
  refine congrArg (Program.ask _) (funext fun start => ?_)
  refine congrArg (Program.ask _) (funext fun passed => ?_)
  cases passed <;> rfl

/-- Whatever a wait is answered, if it is on time and the clock can show its deadline, it is in its
time. -/
theorem await_inTime {account : Option Component} {component : Component} {start : Nat}
    (named : ∀ other, account = some other → other = component) (positive : 1 ≤ times.interval)
    (shown : start + times.timeout * 1000 ≤ horizon)
    (converses : Converses (await tolerates account transition times).run own outcome)
    (onTime : Throughout (OnTime start) own) : InTime times component own := by
  have begun := converses
  rw [await_run] at begun
  cases begun with
  | ask now begun =>
    obtain ⟨clock, onTime⟩ := throughout_onTime_cons.1 onTime
    obtain rfl : start = now := clock.symm
    cases begun with
    | ask all begun =>
      obtain ⟨rfl, onTime⟩ := throughout_onTime_cons.1 onTime
      have deadline : deadline? start times.timeout = some (start + times.timeout * 1000) :=
        if_pos shown
      simp only [if_true, deadline, Option.getD_some] at begun
      have within : Within times (start + times.delay * 1000) (start + times.timeout * 1000) []
          ([] ++ _) outcome :=
        (pollUntil_within (by rw [elapsed_nil]; omega)).concludes begun
      obtain ⟨asked, paused, expired⟩ := within.2 onTime
      have left : start + times.timeout * 1000 - (start + times.delay * 1000) =
          times.timeout * 1000 - times.delay * 1000 := by omega
      simp only [List.nil_append, elapsed_nil, Nat.add_zero, left] at asked paused expired
      refine ⟨⟨_, _, _, _, named, converses, fun late => ?_⟩, ?_, ?_⟩
      · have ended := expired late
        simp only [elapsed_cons, passed]
        omega
      · rw [← times.pauses_eq positive]
        simpa [probes, WaitTimes.pauses] using asked
      · simp only [elapsed_cons, passed, WaitTimes.longest]
        omega

end Wait

end FabricUpgrade
