import Mathlib.Data.Nat.Find
import FabricUpgrade.Proofs.Staging
import FabricUpgrade.Proofs.Watching

/-!
# The timetable of a wait

When a wait probes is a matter of its times alone: first after the delay, then an interval after the
probe before, or at the deadline if that comes first, until the deadline has come.
`WaitTimes.dueAt` is that timetable in whole seconds, and `Wait.Ends` says with which of its probes
a wait ends and how, given what each of them is answered.  A wait on a stage on which nobody tells
to stop keeps to both (`Wait.await_keepsTimetable`).
-/

namespace FabricUpgrade

open Program Session Simulation

namespace WaitTimes

variable (times : WaitTimes) (limit : Option Nat)

/-- How many seconds after the start of a wait its probes are due, if the deadline comes so many
seconds after the start, or never. -/
def dueAt : Nat → Nat
  | 0 => times.delay
  | index + 1 =>
    let next := dueAt index + max times.interval 1
    limit.elim next (min next)

/-- A probe is due if the deadline had not come with any of those before it. -/
def Due (index : Nat) : Prop :=
  ∀ earlier < index, ∀ deadline ∈ limit, times.dueAt limit earlier < deadline

instance (index : Nat) : Decidable (times.Due limit index) :=
  inferInstanceAs (Decidable (∀ earlier < index, ∀ deadline ∈ limit,
    times.dueAt limit earlier < deadline))

/-- The timeout of a wait that begins at an instant, if the clock can show its deadline. -/
def limitFrom (start : Nat) : Option Nat :=
  if start + times.timeout * 1000 ≤ Wait.horizon then some times.timeout else none

variable {times : WaitTimes} {limit : Option Nat} {start index : Nat}

/-- One probe more is due exactly if the deadline had not come with the one before. -/
theorem due_succ_iff : times.Due limit (index + 1) ↔
    times.Due limit index ∧ ∀ deadline ∈ limit, times.dueAt limit index < deadline := by
  constructor
  · exact fun due => ⟨fun earlier before => due earlier (Nat.lt_succ_of_lt before),
      due index (Nat.lt_succ_self index)⟩
  · rintro ⟨due, early⟩ earlier before
    rcases Nat.lt_succ_iff_lt_or_eq.1 before with before | rfl
    · exact due earlier before
    · exact early

/-- Between two probes there is a second at least, so no probe is due before so many seconds. -/
theorem le_dueAt (due : times.Due limit index) : index ≤ times.dueAt limit index := by
  induction index with
  | zero => exact Nat.zero_le _
  | succ index inductionHypothesis =>
    obtain ⟨due, early⟩ := due_succ_iff.1 due
    have before := inductionHypothesis due
    cases limit with
    | none =>
      simp only [dueAt, Option.elim_none]
      omega
    | some deadline =>
      have early := early deadline rfl
      simp only [dueAt, Option.elim_some]
      omega

/-- The next probe is due no earlier than one before the deadline. -/
theorem dueAt_le_succ (early : ∀ deadline ∈ limit, times.dueAt limit index < deadline) :
    times.dueAt limit index ≤ times.dueAt limit (index + 1) := by
  cases limit with
  | none =>
    simp only [dueAt, Option.elim_none]
    omega
  | some deadline =>
    have early := early deadline rfl
    simp only [dueAt, Option.elim_some]
    omega

/-- The deadline comes with one of the probes. -/
theorem exists_late (deadline : Nat) : ∃ index, deadline ≤ times.dueAt (some deadline) index := by
  by_contra none
  have early : ∀ index, times.dueAt (some deadline) index < deadline := by
    simpa using none
  have due : times.Due (some deadline) deadline := by
    rintro earlier - _ ⟨⟩
    exact early earlier
  exact absurd (early deadline) (Nat.not_lt_of_le (le_dueAt due))

/-- The deadline of a wait is as far from its start as the limit says. -/
theorem deadline?_eq : Wait.deadline? start times.timeout =
    (times.limitFrom start).map fun deadline => start + deadline * 1000 := by
  simp only [Wait.deadline?, limitFrom]
  split <;> rfl

/-- The clock can show every deadline that there is. -/
theorem shown_of_limitFrom {deadline : Nat} (limited : times.limitFrom start = some deadline) :
    start + deadline * 1000 ≤ Wait.horizon := by
  rw [limitFrom] at limited
  split at limited
  case isTrue shown => exact Option.some.inj limited ▸ shown
  case isFalse => cases limited

/-- No probe but the first one, after the delay, is due after the deadline. -/
theorem dueAt_le (times : WaitTimes) (deadline index : Nat) :
    times.dueAt (some deadline) index ≤ times.delay ∨
      times.dueAt (some deadline) index ≤ deadline := by
  cases index with
  | zero => exact .inl (Nat.le_refl _)
  | succ index => exact .inr (Nat.min_le_right _ _)

/-- A clock that can show the end of the delay and the deadline can show every probe in between. -/
theorem dueAt_shown {horizon deadline : Nat} (delayShown : start + times.delay * 1000 ≤ horizon)
    (deadlineShown : start + deadline * 1000 ≤ horizon) :
    start + times.dueAt (some deadline) index * 1000 ≤ horizon := by
  rcases dueAt_le times deadline index with early | early
  · exact Nat.le_trans (Nat.add_le_add_left (Nat.mul_le_mul_right _ early) _) delayShown
  · exact Nat.le_trans (Nat.add_le_add_left (Nat.mul_le_mul_right _ early) _) deadlineShown

/-- The pauses that a wait may make reach as far as its clock and its deadline do. -/
theorem index_le {horizon : Nat} (due : times.Due limit index)
    (shown : start + times.dueAt limit index * 1000 ≤ horizon) :
    index ≤ (limit.map fun deadline => start + deadline * 1000).getD horizon - start := by
  cases limit with
  | none =>
    have enough := le_dueAt due
    simp only [Option.map_none, Option.getD_none]
    omega
  | some deadline =>
    simp only [Option.map_some, Option.getD_some, Nat.add_sub_cancel_left]
    cases index with
    | zero => exact Nat.zero_le _
    | succ index =>
      obtain ⟨due, early⟩ := due_succ_iff.1 due
      have early := early deadline rfl
      have enough := le_dueAt due
      omega

/-- The pause of a wait leads from one probe to the next one that is due. -/
theorem pauseAt?_dueAt (start : Nat)
    (early : ∀ deadline ∈ limit, times.dueAt limit index < deadline) :
    ∃ milliseconds, Wait.pauseAt? times (limit.map fun deadline => start + deadline * 1000)
        (start + times.dueAt limit index * 1000) = some milliseconds ∧
      start + times.dueAt limit index * 1000 + milliseconds =
        start + times.dueAt limit (index + 1) * 1000 := by
  cases limit with
  | none =>
    refine ⟨_, rfl, ?_⟩
    simp only [dueAt, Option.elim_none, Wait.leastInterval]
    omega
  | some deadline =>
    have early := early deadline rfl
    have more : ¬ start + deadline * 1000 ≤ start + times.dueAt (some deadline) index * 1000 := by
      omega
    refine ⟨_, if_neg more, ?_⟩
    simp only [dueAt, Option.elim_some, Wait.leastInterval]
    omega

/-- There is no pause once the deadline has come. -/
theorem pauseAt?_late {deadline : Nat} (late : deadline ≤ times.dueAt (some deadline) index) :
    Wait.pauseAt? times (some (start + deadline * 1000))
      (start + times.dueAt (some deadline) index * 1000) = none :=
  if_pos (by omega)

end WaitTimes

namespace Simulation

variable {Manager : Type} (respond : Manager → (call : Call) → call.Answer × Manager)

/-- A manager after it was asked for the status so many times. -/
def askedTimes (component : Option Component) (manager : Manager) : Nat → Manager
  | 0 => manager
  | count + 1 => (respond (askedTimes component manager count) (.getStatus component)).2

/-- What a manager answers in turn when it is asked for the status again and again. -/
def statusAnswers (component : Option Component) (manager : Manager) (index : Nat) :
    Except ManagerError Summary :=
  (respond (askedTimes respond component manager index) (.getStatus component)).1

/-- A stage on which nobody tells to stop and every call is answered by the manager. -/
def Stage.calm (manager : Manager) (now : Nat) (calls : List (Call × Nat)) : Stage Manager :=
  { manager, now, limit := none, calls }

namespace Stage

variable {respond} {manager : Manager} {now : Nat} {calls : List (Call × Nat)}

@[simp]
theorem calm_now : (calm manager now calls).now = now :=
  rfl

/-- On a calm stage the manager answers every call. -/
@[simp]
theorem calm_call (call : Call) :
    (calm manager now calls).call respond call =
      ((respond manager call).1, calm (respond manager call).2 now ((call, now) :: calls)) :=
  rfl

/-- On a calm stage a pause passes. -/
theorem calm_hold_rest_bind {First : Type} {component : Option Component} {milliseconds : Nat}
    {next : Unit → Procedure First} :
    (calm manager now calls).hold respond (Procedure.rest component milliseconds >>= next).run =
      (calm manager (now + milliseconds) calls).hold respond (next ()).run :=
  hold_rest_bind _ milliseconds next

end Stage

end Simulation

namespace Wait

/-- With which of its probes a wait ends and how, if the deadline comes so many seconds after its
start, or never, and its probes are answered in turn by the answers. -/
inductive Ends (tolerates : Tolerance) (component : Option Component) (transition : Transition)
    (times : WaitTimes) (limit : Option Nat) (answers : Nat → Except ManagerError Summary) :
    Nat → Except Failure Observation → Prop where
  /-- The first answer that decides ends the wait with what it decides on. -/
  | decided {last : Nat} {outcome : Except Failure Observation} (due : times.Due limit last)
      (opened : ∀ earlier < last, ∃ observed,
        LeavesOpen tolerates component transition (answers earlier) observed)
      (decides : Decides tolerates component transition (answers last) outcome) :
      Ends tolerates component transition times limit answers last outcome
  /-- If none of them decides, the wait is given up with the last one that is due. -/
  | expired {last deadline : Nat} {observed : Observation} (due : times.Due limit last)
      (opened : ∀ earlier < last, ∃ observed,
        LeavesOpen tolerates component transition (answers earlier) observed)
      (leaves : LeavesOpen tolerates component transition (answers last) observed)
      (limited : limit = some deadline) (late : deadline ≤ times.dueAt limit last) :
      Ends tolerates component transition times limit answers last
        (.error (.waitTimeout component transition.target times.timeout (some observed)))

/-- The first probes of a wait that began at an instant, in milliseconds. -/
def probesUntil (component : Option Component) (times : WaitTimes) (limit : Option Nat)
    (start count : Nat) : List (Call × Nat) :=
  (List.range count).map fun index => (.getStatus component, start + times.dueAt limit index * 1000)

/-- One probe more is the last one. -/
theorem probesUntil_succ {component : Option Component} {times : WaitTimes} {limit : Option Nat}
    {start count : Nat} :
    (probesUntil component times limit start (count + 1)).reverse =
      (.getStatus component, start + times.dueAt limit count * 1000) ::
        (probesUntil component times limit start count).reverse := by
  simp [probesUntil, List.range_succ]

/-- With a deadline every wait ends. -/
theorem exists_ends (tolerates : Tolerance) (component : Option Component) (transition : Transition)
    (times : WaitTimes) (deadline : Nat) (answers : Nat → Except ManagerError Summary) :
    ∃ last outcome,
      Ends tolerates component transition times (some deadline) answers last outcome := by
  classical
  have ending : ∃ index,
      (∃ outcome, Decides tolerates component transition (answers index) outcome) ∨
        deadline ≤ times.dueAt (some deadline) index := by
    obtain ⟨index, late⟩ := times.exists_late deadline
    exact ⟨index, .inr late⟩
  have before : ∀ earlier < Nat.find ending, (∃ observed,
      LeavesOpen tolerates component transition (answers earlier) observed) ∧
        times.dueAt (some deadline) earlier < deadline := by
    intro earlier before
    obtain ⟨undecided, early⟩ := not_or.1 (Nat.find_min ending before)
    exact ⟨(decides_or_leavesOpen _ _ _ _).resolve_left undecided, Nat.lt_of_not_le early⟩
  have due : times.Due (some deadline) (Nat.find ending) := by
    rintro earlier earlierBefore _ ⟨⟩
    exact (before earlier earlierBefore).2
  have opened := fun earlier earlierBefore => (before earlier earlierBefore).1
  rcases decides_or_leavesOpen tolerates component transition (answers (Nat.find ending)) with
    ⟨outcome, decides⟩ | ⟨observed, leaves⟩
  · exact ⟨_, outcome, .decided due opened decides⟩
  · rcases Nat.find_spec ending with ⟨outcome, decides⟩ | late
    · exact ⟨_, outcome, .decided due opened decides⟩
    · exact ⟨_, _, .expired due opened leaves rfl late⟩

variable {Manager : Type} {respond : Manager → (call : Call) → call.Answer × Manager}
  {manager : Manager} {tolerates : Tolerance} {component : Option Component}
  {transition : Transition} {times : WaitTimes} {start : Nat}

/-- What a wait promises that began at an instant, after so many calls, if its times are kept and
`held` is how it ended on a stage. -/
structure KeepsTimetable (respond : Manager → (call : Call) → call.Answer × Manager)
    (manager : Manager) (calls : List (Call × Nat)) (tolerates : Tolerance)
    (component : Option Component) (transition : Transition) (times : WaitTimes) (start : Nat)
    (held : Except Failure Observation × Stage Manager) : Prop where
  /-- It ends with the probe that it has to end with, at the instant of that probe; each probe up to
  that one is made when it is due, and no other call is made. -/
  ends : ∀ {last : Nat} {outcome : Except Failure Observation},
    Ends tolerates component transition times (times.limitFrom start)
      (statusAnswers respond component manager) last outcome →
    start + times.dueAt (times.limitFrom start) last * 1000 ≤ horizon →
      held = (outcome, Stage.calm (askedTimes respond component manager (last + 1))
        (start + times.dueAt (times.limitFrom start) last * 1000)
        ((probesUntil component times (times.limitFrom start) start (last + 1)).reverse ++ calls))
  /-- It ends if a clock can show its deadline and the end of its delay. -/
  concludes : (times.limitFrom start).isSome → start + times.delay * 1000 ≤ horizon →
    ∃ last outcome, Ends tolerates component transition times (times.limitFrom start)
        (statusAnswers respond component manager) last outcome ∧
      start + times.dueAt (times.limitFrom start) last * 1000 ≤ horizon
  /-- Whether it ends or not, as long as no answer decides it makes each probe when it is due. -/
  goesOn : ∀ {index : Nat}, times.Due (times.limitFrom start) index →
    start + times.dueAt (times.limitFrom start) index * 1000 ≤ horizon →
    (∀ earlier < index, ∃ observed, LeavesOpen tolerates component transition
      (statusAnswers respond component manager earlier) observed) →
      (probesUntil component times (times.limitFrom start) start (index + 1)).reverse ++ calls <:+
        held.2.calls

variable {calls : List (Call × Nat)}

/-- With pauses left, a round whose probe leaves the wait open and that is not too late is followed
by the next one. -/
theorem hold_pollUntil_succ {limit : Option Nat} {index left : Nat} {observed : Observation}
    (early : ∀ deadline ∈ limit, times.dueAt limit index < deadline)
    (leaves : LeavesOpen tolerates component transition
      (respond manager (.getStatus component)).1 observed) :
    (Stage.calm manager (start + times.dueAt limit index * 1000) calls).hold respond
        (pollUntil tolerates component transition times
          (limit.map fun deadline => start + deadline * 1000) (left + 1)).run =
      (Stage.calm (respond manager (.getStatus component)).2
          (start + times.dueAt limit (index + 1) * 1000)
          ((.getStatus component, start + times.dueAt limit index * 1000) :: calls)).hold respond
        (pollUntil tolerates component transition times
          (limit.map fun deadline => start + deadline * 1000) left).run := by
  obtain ⟨milliseconds, paused, reaches⟩ := WaitTimes.pauseAt?_dueAt start early
  rw [pollUntil, Stage.hold_pollRound_of_leavesOpen leaves, Stage.calm_now, paused]
  simp only [Stage.calm_call]
  rw [Stage.calm_hold_rest_bind, reaches]

/-- While its answers leave it open a wait comes to each of the probes that are due. -/
theorem hold_await_of_due {index : Nat} (due : times.Due (times.limitFrom start) index)
    (shown : start + times.dueAt (times.limitFrom start) index * 1000 ≤ horizon)
    (opened : ∀ earlier < index, ∃ observed, LeavesOpen tolerates component transition
      (statusAnswers respond component manager earlier) observed) :
    (Stage.calm manager start calls).hold respond (await tolerates component transition times).run =
      (Stage.calm (askedTimes respond component manager index)
        (start + times.dueAt (times.limitFrom start) index * 1000)
        ((probesUntil component times (times.limitFrom start) start index).reverse ++
          calls)).hold respond
          (pollUntil tolerates component transition times (deadline? start times.timeout)
            ((deadline? start times.timeout).getD horizon - start - index)).run := by
  induction index with
  | zero => exact Stage.calm_hold_rest_bind
  | succ index inductionHypothesis =>
    obtain ⟨dueBefore, early⟩ := WaitTimes.due_succ_iff.1 due
    obtain ⟨observed, leaves⟩ := opened index (Nat.lt_succ_self index)
    have shownBefore : start + times.dueAt (times.limitFrom start) index * 1000 ≤ horizon :=
      Nat.le_trans
        (Nat.add_le_add_left (Nat.mul_le_mul_right _ (WaitTimes.dueAt_le_succ early)) _) shown
    have left : (deadline? start times.timeout).getD horizon - start - index =
        (deadline? start times.timeout).getD horizon - start - (index + 1) + 1 := by
      have enough := WaitTimes.index_le due shown
      rw [← WaitTimes.deadline?_eq] at enough
      generalize (deadline? start times.timeout).getD horizon - start = pauses at enough ⊢
      omega
    rw [inductionHypothesis dueBefore shownBefore
        fun earlier before => opened earlier (Nat.lt_succ_of_lt before),
      left, probesUntil_succ, WaitTimes.deadline?_eq]
    exact hold_pollUntil_succ early leaves

/-- A poll is a round, whether another one may follow it or not. -/
theorem pollUntil_eq_pollRound (tolerates : Tolerance) (component : Option Component)
    (transition : Transition) (times : WaitTimes) (deadline : Option Nat) (bound : Nat) :
    ∃ again, pollUntil tolerates component transition times deadline bound =
      pollRound tolerates component transition times deadline again := by
  cases bound with
  | zero => exact ⟨none, rfl⟩
  | succ left => exact ⟨_, rfl⟩

/-- A poll whose first probe decides ends with what it decides on. -/
theorem hold_pollUntil_of_decides {stage : Stage Manager} {deadline : Option Nat} {bound : Nat}
    {outcome : Except Failure Observation}
    (decides : Decides tolerates component transition
      (stage.call respond (.getStatus component)).1 outcome) :
    stage.hold respond (pollUntil tolerates component transition times deadline bound).run =
      (outcome, (stage.call respond (.getStatus component)).2) := by
  obtain ⟨again, same⟩ := pollUntil_eq_pollRound tolerates component transition times deadline bound
  rw [same, Stage.hold_pollRound_of_decides decides]

/-- A poll whose first probe leaves the wait open when the time is up gives the wait up. -/
theorem hold_pollUntil_of_late {stage : Stage Manager} {deadline : Option Nat} {bound : Nat}
    {observed : Observation}
    (leaves : LeavesOpen tolerates component transition
      (stage.call respond (.getStatus component)).1 observed)
    (late : pauseAt? times deadline stage.now = none) :
    stage.hold respond (pollUntil tolerates component transition times deadline bound).run =
      (.error (.waitTimeout component transition.target times.timeout (some observed)),
        (stage.call respond (.getStatus component)).2) := by
  obtain ⟨again, same⟩ := pollUntil_eq_pollRound tolerates component transition times deadline bound
  rw [same, Stage.hold_pollRound_of_leavesOpen leaves, late]
  cases again <;> rfl

/-- A poll begins with a probe. -/
theorem calls_hold_pollUntil (stage : Stage Manager) {deadline : Option Nat} {bound : Nat} :
    (.getStatus component, stage.now) :: stage.calls <:+
      (stage.hold respond
        (pollUntil tolerates component transition times deadline bound).run).2.calls := by
  obtain ⟨again, same⟩ := pollUntil_eq_pollRound tolerates component transition times deadline bound
  have probed := stage.calls_call respond (.getStatus component)
  rcases decides_or_leavesOpen tolerates component transition
    (stage.call respond (.getStatus component)).1 with ⟨outcome, decides⟩ | ⟨observed, leaves⟩
  · simp only [same, Stage.hold_pollRound_of_decides decides, probed, List.suffix_refl]
  · rw [same, Stage.hold_pollRound_of_leavesOpen leaves, ← probed]
    split
    · exact Stage.calls_suffix_hold _
    · exact List.suffix_rfl

/-- On a stage on which nobody tells it to stop a wait keeps to its timetable. -/
theorem await_keepsTimetable (respond : Manager → (call : Call) → call.Answer × Manager)
    (manager : Manager) (calls : List (Call × Nat)) (tolerates : Tolerance)
    (component : Option Component) (transition : Transition) (times : WaitTimes) (start : Nat) :
    KeepsTimetable respond manager calls tolerates component transition times start
      ((Stage.calm manager start calls).hold respond
        (await tolerates component transition times).run) := by
  constructor
  case ends =>
    rintro last outcome (⟨due, opened, decides⟩ | ⟨due, opened, leaves, limited, late⟩) shown
    · rw [hold_await_of_due due shown opened, hold_pollUntil_of_decides decides, probesUntil_succ]
      rfl
    · have unpaused : pauseAt? times (deadline? start times.timeout)
          (start + times.dueAt (times.limitFrom start) last * 1000) = none := by
        rw [WaitTimes.deadline?_eq, limited]
        exact WaitTimes.pauseAt?_late (limited ▸ late)
      rw [hold_await_of_due due shown opened, hold_pollUntil_of_late leaves unpaused,
        probesUntil_succ]
      rfl
  case concludes =>
    intro limited shown
    obtain ⟨deadline, limited⟩ := Option.isSome_iff_exists.1 limited
    rw [limited]
    obtain ⟨last, outcome, ends⟩ := exists_ends tolerates component transition times deadline
      (statusAnswers respond component manager)
    exact ⟨last, outcome, ends, WaitTimes.dueAt_shown shown (WaitTimes.shown_of_limitFrom limited)⟩
  case goesOn =>
    intro index due shown opened
    rw [hold_await_of_due due shown opened, probesUntil_succ]
    exact calls_hold_pollUntil (Stage.calm _ _ _)

/-- A manager that never comes back is asked at the start, after the interval and at the
deadline. -/
theorem await_keepsTimetable_unavailable :
    (Stage.calm [.error (.serviceUnavailable "down")] 0 []).hold StatusScript.respond
        (await Tolerance.managementRestart (some .management) (.ofUpgrade false) ⟨4, 3, 0⟩).run =
      (.error (.waitTimeout (some .management) (Transition.ofUpgrade false).target 4
          (some ⟨.inProgress, "service unavailable: down"⟩)),
        Stage.calm [.error (.serviceUnavailable "down")] 4000
          [(.getStatus (some .management), 4000), (.getStatus (some .management), 3000),
            (.getStatus (some .management), 0)]) := by
  have limited : (⟨4, 3, 0⟩ : WaitTimes).limitFrom 0 = some 4 := if_pos (by decide)
  have answers (index : Nat) : statusAnswers StatusScript.respond (some .management)
      [.error (.serviceUnavailable "down")] index = .error (.serviceUnavailable "down") := by
    have same : askedTimes StatusScript.respond (some .management)
        [.error (.serviceUnavailable "down")] index = [.error (.serviceUnavailable "down")] := by
      induction index with
      | zero => rfl
      | succ index inductionHypothesis => rw [askedTimes, inductionHypothesis]; rfl
    rw [statusAnswers, same]
    rfl
  have leaves (index : Nat) : LeavesOpen Tolerance.managementRestart (some .management)
      (.ofUpgrade false) (statusAnswers StatusScript.respond (some .management)
        [.error (.serviceUnavailable "down")] index)
      ⟨.inProgress, "service unavailable: down"⟩ := by
    rw [answers]
    exact ⟨.tolerated rfl, by decide, by decide⟩
  have kept := await_keepsTimetable StatusScript.respond [.error (.serviceUnavailable "down")] []
    Tolerance.managementRestart (some .management) (.ofUpgrade false) ⟨4, 3, 0⟩ 0
  have ended := kept.ends (.expired (by rw [limited]; decide) (fun earlier _ => ⟨_, leaves earlier⟩)
    (leaves 2) limited (by rw [limited]; decide)) (by rw [limited]; decide)
  rw [limited] at ended
  exact ended

end Wait

end FabricUpgrade
