import FabricUpgrade.Proofs.Duration
import FabricUpgrade.Proofs.Timetable

/-!
# Waits that outlast their timeout

The pauses between the probes of a wait end at its deadline at the latest, but the delay before the
first probe does not.  So a wait returns by its deadline just if its delay ends by then or somebody
tells it to stop by then, and a spec that is accepted may have a delay that is longer than its
timeout (`Spec.await_returns_inTime_iff`).
-/

namespace FabricUpgrade

open Program Session Simulation

namespace Simulation.Stage

variable {Manager : Type} {stage : Stage Manager} {milliseconds instant : Nat}

/-- Somebody has told to stop, or will do so at an instant or before it. -/
def StopsBy (stage : Stage Manager) (instant : Nat) : Prop :=
  stage.stopped = true ∨ ∃ stop ∈ stage.stopAt, stop ≤ instant

/-- No pause lasts longer than it should. -/
theorem now_sleep_le (stage : Stage Manager) (milliseconds : Nat) :
    (stage.sleep milliseconds).2.now ≤ stage.now + milliseconds := by
  have slept := stage.slept_sleep milliseconds
  generalize stage.sleep milliseconds = after at slept
  cases slept with
  | already _ => exact Nat.le_add_right _ _
  | cut _ _ inside => exact Nat.max_le.2 ⟨Nat.le_add_right _ _, inside⟩
  | whole _ _ => exact Nat.le_refl _

/-- A pause is over by an instant just if all of it fits in, or if it is cut short by then. -/
theorem now_sleep_le_iff (begun : stage.now ≤ instant) :
    (stage.sleep milliseconds).2.now ≤ instant ↔
      stage.now + milliseconds ≤ instant ∨ stage.StopsBy instant := by
  have slept := stage.slept_sleep milliseconds
  generalize stage.sleep milliseconds = after at slept
  cases slept with
  | already stopped => exact ⟨fun _ => .inr (.inl stopped), fun _ => begun⟩
  | @cut stop unstopped comes inside =>
    constructor
    · exact fun early => .inr (.inr ⟨stop, comes, Nat.le_trans (Nat.le_max_right _ _) early⟩)
    · rintro (fits | stopped | ⟨other, given, early⟩)
      · exact Nat.max_le.2 ⟨begun, Nat.le_trans inside fits⟩
      · rw [unstopped] at stopped
        cases stopped
      · obtain rfl : stop = other := Option.some.inj (comes.symm.trans given)
        exact Nat.max_le.2 ⟨begun, early⟩
  | whole unstopped later =>
    refine ⟨.inl, ?_⟩
    rintro (fits | stopped | ⟨stop, given, early⟩)
    · exact fits
    · rw [unstopped] at stopped
      cases stopped
    · exact Nat.le_trans (Nat.le_of_lt (later stop given)) early

end Simulation.Stage

namespace Wait

variable {Manager : Type} {respond : Manager → (call : Call) → call.Answer × Manager}
  {stage : Stage Manager} {tolerates : Tolerance} {component : Option Component}
  {transition : Transition} {times : WaitTimes} {limit bound : Nat}

/-- A round that begins by the deadline ends by then if what comes behind it does. -/
theorem now_hold_pollRound_le {again : Option (Unit → Procedure Observation)}
    (begun : stage.now ≤ limit)
    (goesOn : ∀ next ∈ again, ∀ later : Stage Manager, later.now ≤ limit →
      (later.hold respond (next ()).run).2.now ≤ limit) :
    (stage.hold respond
      (pollRound tolerates component transition times (some limit) again).run).2.now ≤ limit := by
  have probed : (stage.call respond (.getStatus component)).2.now ≤ limit :=
    Nat.le_trans (Nat.le_of_eq (Stage.now_call _)) begun
  rcases decides_or_leavesOpen tolerates component transition
    (stage.call respond (.getStatus component)).1 with ⟨outcome, decides⟩ | ⟨observed, leaves⟩
  · rwa [Stage.hold_pollRound_of_decides decides]
  · rw [Stage.hold_pollRound_of_leavesOpen leaves]
    cases again with
    | none => exact probed
    | some next =>
      cases paused : pauseAt? times (some limit) stage.now with
      | none => exact probed
      | some milliseconds =>
        obtain ⟨more, rfl⟩ := pauseAt?_eq_some_iff.1 paused
        have rested := (stage.call respond (.getStatus component)).2.now_sleep_le
          (min times.step (limit - stage.now))
        rw [Stage.now_call] at rested
        have early : ((stage.call respond (.getStatus component)).2.sleep
            (min times.step (limit - stage.now))).2.now ≤ limit := by omega
        simp only [Stage.hold_rest_bind]
        split
        · exact goesOn next rfl _ early
        · exact early

/-- The probes of a wait and the pauses between them are over by its deadline, if it comes to the
first of them by then. -/
theorem now_hold_pollUntil_le (begun : stage.now ≤ limit) :
    (stage.hold respond
      (pollUntil tolerates component transition times (some limit) bound).run).2.now ≤ limit := by
  induction bound generalizing stage with
  | zero => exact now_hold_pollRound_le begun nofun
  | succ bound inductionHypothesis =>
    refine now_hold_pollRound_le begun ?_
    rintro _ ⟨⟩ later early
    exact inductionHypothesis early

/-- A wait that comes to its first probe at its deadline or later ends with it. -/
theorem now_hold_pollUntil_late (late : limit ≤ stage.now) :
    (stage.hold respond
      (pollUntil tolerates component transition times (some limit) bound).run).2.now =
        stage.now := by
  rcases decides_or_leavesOpen tolerates component transition
    (stage.call respond (.getStatus component)).1 with ⟨outcome, decides⟩ | ⟨observed, leaves⟩
  · rw [hold_pollUntil_of_decides decides, Stage.now_call]
  · have unpaused : pauseAt? times (some limit) stage.now = none := if_pos late
    rw [hold_pollUntil_of_late leaves unpaused, Stage.now_call]

/-- A wait is held by pausing for its delay and, if all of it passes, polling up to its deadline. -/
theorem hold_await (shown : stage.now + times.timeout * 1000 ≤ horizon) :
    stage.hold respond (await tolerates component transition times).run =
      if (stage.sleep (times.delay * 1000)).1 then
        (stage.sleep (times.delay * 1000)).2.hold respond
          (pollUntil tolerates component transition times (some (stage.now + times.timeout * 1000))
            (stage.now + times.timeout * 1000 - stage.now)).run
      else (.error (.cancelled component), (stage.sleep (times.delay * 1000)).2) := by
  have deadline : deadline? stage.now times.timeout = some (stage.now + times.timeout * 1000) :=
    if_pos shown
  rw [await, Stage.hold_now_bind, Stage.hold_rest_bind, deadline, Option.getD_some]

/-- A wait is over by its deadline just if its delay is. -/
theorem now_hold_await_le_iff (shown : stage.now + times.timeout * 1000 ≤ horizon) :
    (stage.hold respond (await tolerates component transition times).run).2.now ≤
        stage.now + times.timeout * 1000 ↔
      (stage.sleep (times.delay * 1000)).2.now ≤ stage.now + times.timeout * 1000 := by
  rw [hold_await shown]
  split
  · exact ⟨Nat.le_trans (Stage.now_le_hold _), now_hold_pollUntil_le⟩
  · exact Iff.rfl

/-- A wait takes its timeout or its delay at most, whichever is longer. -/
theorem now_hold_await_le (shown : stage.now + times.timeout * 1000 ≤ horizon) :
    (stage.hold respond (await tolerates component transition times).run).2.now ≤
      stage.now + times.longest := by
  have delayed : (stage.sleep (times.delay * 1000)).2.now ≤ stage.now + times.longest :=
    Nat.le_trans (stage.now_sleep_le _) (Nat.add_le_add_left (Nat.le_max_right _ _) _)
  rw [hold_await shown]
  split
  case isFalse => exact delayed
  case isTrue =>
    by_cases early : (stage.sleep (times.delay * 1000)).2.now ≤ stage.now + times.timeout * 1000
    · exact Nat.le_trans (now_hold_pollUntil_le early)
        (Nat.add_le_add_left (Nat.le_max_left _ _) _)
    · rwa [now_hold_pollUntil_late (Nat.le_of_not_le early)]

end Wait

namespace Spec

variable {spec : Spec} {Manager : Type}

/-- No wait of an accepted run has a timeout that is longer than the longest one. -/
theorem timeout_le_mostSeconds (accepted : spec.fault? = none) :
    spec.wait.timeout ≤ SpecFault.mostSeconds := by
  obtain ⟨-, timeout, -⟩ := keeps_of_fault? accepted none .wait (by decide)
  exact timeout

/-- Wherever a wait of an accepted run is held, if calls take no time, it returns within its timeout
just if its delay is not longer than that or somebody tells it to stop by then.  It never takes
longer than the longer of the two. -/
theorem await_returns_inTime_iff (accepted : spec.fault? = none)
    (respond : Manager → (call : Call) → call.Answer × Manager) (stage : Stage Manager)
    (shown : stage.now + SpecFault.mostSeconds * 1000 ≤ Wait.horizon) (policy : Policy)
    (account : Option Component) (transition : Transition) :
    ((stage.hold respond (spec.toRun.await policy account transition).run).2.now ≤
        stage.now + spec.wait.timeout * 1000 ↔
      spec.wait.delay ≤ spec.wait.timeout ∨
        stage.StopsBy (stage.now + spec.wait.timeout * 1000)) ∧
    (stage.hold respond (spec.toRun.await policy account transition).run).2.now ≤
      stage.now + max spec.wait.timeout spec.wait.delay * 1000 := by
  have deadlineShown : stage.now + spec.wait.timeout * 1000 ≤ Wait.horizon :=
    Nat.le_trans
      (Nat.add_le_add_left (Nat.mul_le_mul_right _ (timeout_le_mostSeconds accepted)) _) shown
  have fits : stage.now + spec.wait.delay * 1000 ≤ stage.now + spec.wait.timeout * 1000 ↔
      spec.wait.delay ≤ spec.wait.timeout := by omega
  have longest : spec.wait.longest = max spec.wait.timeout spec.wait.delay * 1000 :=
    Nat.mul_max_mul_right _ _ _
  constructor
  · rw [← fits, ← Stage.now_sleep_le_iff (Nat.le_add_right _ _)]
    exact Wait.now_hold_await_le_iff deadlineShown
  · rw [← longest]
    exact Wait.now_hold_await_le deadlineShown

/-- A spec whose delay is longer than its timeout. -/
def dawdling : Spec where
  upgradePrepareReadyId := "ready"
  manager := { url := "http://nsx.test", credentials := { name := "admin" } }
  wait := { timeout := 1, interval := 1, delay := 2 }

/-- It is accepted.  Where nobody tells to stop its waits do not return within a second, but within
two; told to stop in time, they do. -/
theorem await_returns_inTime_iff_dawdling :
    dawdling.fault? = none ∧ 0 + SpecFault.mostSeconds * 1000 ≤ Wait.horizon ∧
      ∀ (account : Option Component) (transition : Transition) (script : StatusScript),
        1000 < ((Stage.calm script 0 []).hold StatusScript.respond
          (dawdling.toRun.await {} account transition).run).2.now ∧
        ((Stage.calm script 0 []).hold StatusScript.respond
          (dawdling.toRun.await {} account transition).run).2.now ≤ 2000 ∧
        (({ manager := script, stopAt := some 500 } : Stage StatusScript).hold
          StatusScript.respond (dawdling.toRun.await {} account transition).run).2.now ≤ 1000 := by
  have accepted : dawdling.fault? = none := by decide +kernel
  have shown : 0 + SpecFault.mostSeconds * 1000 ≤ Wait.horizon := by decide +kernel
  refine ⟨accepted, shown, fun account transition script => ?_⟩
  obtain ⟨inTime, inTwo⟩ := await_returns_inTime_iff accepted StatusScript.respond
    (Stage.calm script 0 []) shown {} account transition
  obtain ⟨stopped, -⟩ := await_returns_inTime_iff accepted StatusScript.respond
    { manager := script, stopAt := some 500 } shown {} account transition
  have early : 500 ≤ 0 + dawdling.wait.timeout * 1000 := by decide
  refine ⟨Nat.lt_of_not_le fun early => ?_, inTwo, stopped.2 (.inr (.inr ⟨500, rfl, early⟩))⟩
  rcases inTime.1 early with fits | stopped | ⟨_, stops, _⟩
  · exact absurd fits (by decide)
  · cases stopped
  · cases stops

/-- A wait of an accepted run for a component that stays at work returns after its timeout, though
its calls take no time. -/
theorem not_returns_inTime_dawdling : dawdling.fault? = none ∧
    ¬ ((Stage.calm [.ok ⟨.inProgress, [⟨"MP", .inProgress, none, none⟩]⟩] 0 []).hold
      StatusScript.respond
        (dawdling.toRun.await {} (some .management) (.ofUpgrade false)).run).2.now ≤
          0 + dawdling.wait.timeout * 1000 := by
  decide +kernel

end Spec

end FabricUpgrade
