import FabricUpgrade.Proofs.Acceptance
import FabricUpgrade.Proofs.Pacing
import FabricUpgrade.Proofs.Turn

/-!
# How long a run takes

A run lets time pass in its waits only, and there are few of them.  `Session.Spends` cuts exchanges
into waits and the questions between them, which let no time pass, and `Takes` says that whatever a
program is answered, it waits at most so often.  The waits add up along a sequence (`takes_bind`): a
turn has three at most (`Run.driveComponent_takes`), and so has each of the turns that a run is cut into
(`Run.drive_turns`).  With the bounds on each wait this bounds the run (`Run.execute_ends_inTime`).
-/

namespace FabricUpgrade

open Program Session
open Plant (elapsed passed)

namespace Session

/-- Exchanges that are so many waits and, between them, questions that let no time pass. -/
inductive Spends (isWait : History → Prop) : Nat → History → Prop where
  | nothing : Spends isWait 0 []
  | question {waits : Nat} {own : History} {exchange : Exchange Question Answer}
      (earlier : Spends isWait waits own)
      (instant : ∀ milliseconds, exchange.question ≠ .sleep milliseconds) :
      Spends isWait waits (own ++ [exchange])
  | wait {waits : Nat} {own waited : History} (earlier : Spends isWait waits own)
      (isWaited : isWait waited) : Spends isWait (waits + 1) (own ++ waited)

/-- Only a pause lets time pass. -/
theorem passed_of_instant {exchange : Exchange Question Answer}
    (instant : ∀ milliseconds, exchange.question ≠ .sleep milliseconds) : passed exchange = 0 := by
  obtain ⟨asked, answer⟩ := exchange
  cases asked with
  | sleep milliseconds => exact absurd rfl (instant milliseconds)
  | call _ => rfl
  | now => rfl
  | stopRequested => rfl

namespace Spends

variable {isWait : History → Prop} {first second : Nat} {before after : History}

/-- The waits of two stretches add up. -/
theorem append (begun : Spends isWait first before) (continued : Spends isWait second after) :
    Spends isWait (first + second) (before ++ after) := by
  induction continued with
  | nothing => simpa using begun
  | question _ instant inductionHypothesis =>
    rw [← List.append_assoc]
    exact inductionHypothesis.question instant
  | wait _ isWaited inductionHypothesis =>
    rw [← List.append_assoc]
    exact inductionHypothesis.wait isWaited

/-- A question that is no pause takes no wait. -/
theorem single {exchange : Exchange Question Answer}
    (instant : ∀ milliseconds, exchange.question ≠ .sleep milliseconds) :
    Spends isWait 0 [exchange] :=
  nothing.question instant

/-- If every wait that is on time takes so long at most, the exchanges take as often so long as they
have waits. -/
theorem inTime {isTimely : History → Prop} {start waits longest limit : Nat} {own : History}
    (bounded : ∀ begun waited, isWait waited → Throughout (OnTime begun) waited →
      begun + longest ≤ limit → isTimely waited ∧ elapsed waited ≤ longest)
    (spends : Spends isWait waits own) (onTime : Throughout (OnTime start) own)
    (shown : start + waits * longest ≤ limit) :
    Spends isTimely waits own ∧ elapsed own ≤ waits * longest := by
  induction spends with
  | nothing => exact ⟨.nothing, Nat.zero_le _⟩
  | question _ instant inductionHypothesis =>
    obtain ⟨spends, taken⟩ := inductionHypothesis (throughout_append_iff.1 onTime).1 shown
    refine ⟨spends.question instant, ?_⟩
    simpa [passed_of_instant instant] using taken
  | @wait waits own waited _ isWaited inductionHypothesis =>
    obtain ⟨before, during⟩ := throughout_onTime_append.1 onTime
    rw [Nat.succ_mul] at shown ⊢
    obtain ⟨spends, taken⟩ := inductionHypothesis before (by omega)
    obtain ⟨timely, last⟩ := bounded _ waited isWaited during (by omega)
    refine ⟨spends.wait timely, ?_⟩
    rw [elapsed_append]
    omega

end Spends

end Session

/-- Whatever the program is answered, it waits so often at most, and lets no other time pass. -/
def Takes {Result : Type} (isWait : History → Prop) (limit : Nat) (program : Session Result) : Prop :=
  ∀ own result, Converses program own result → ∃ waits ≤ limit, Spends isWait waits own

section Takes

variable {isWait : History → Prop} {limit first second : Nat} {Value Next : Type}

/-- A program that waits so often at most waits no more often than that. -/
theorem Takes.mono {program : Session Value} (takes : Takes isWait first program)
    (fewer : first ≤ second) : Takes isWait second program := by
  intro own result converses
  obtain ⟨waits, few, spends⟩ := takes own result converses
  exact ⟨waits, Nat.le_trans few fewer, spends⟩

/-- What has ended does not wait. -/
theorem takes_done (result : Value) : Takes isWait 0 (.done result) := by
  rintro _ _ ⟨⟩
  exact ⟨0, Nat.le_refl 0, .nothing⟩

/-- The waits of a sequence are at most those of its parts together. -/
theorem takes_andThen {program : Session Value} {next : Value → Session Next}
    (begins : Takes isWait first program) (continues : ∀ value, Takes isWait second (next value)) :
    Takes isWait (first + second) (program.andThen next) := by
  intro own result converses
  obtain ⟨before, after, middle, rfl, begun, continued⟩ := converses_andThen_iff.1 converses
  obtain ⟨earlier, fewEarlier, begun⟩ := begins _ _ begun
  obtain ⟨later, fewLater, continued⟩ := continues _ _ _ continued
  exact ⟨earlier + later, Nat.add_le_add fewEarlier fewLater, begun.append continued⟩

/-- The waits of a sequence are those of its parts. -/
theorem takes_bind {procedure : Procedure Value} {next : Value → Procedure Next}
    (begins : Takes isWait first procedure.run)
    (continues : ∀ value, Takes isWait second (next value).run) :
    Takes isWait (first + second) (procedure >>= next).run := by
  refine takes_andThen begins fun outcome => ?_
  cases outcome with
  | ok value => exact continues value
  | error _ => exact (takes_done _).mono (Nat.zero_le _)

/-- The case of `takes_bind` where only the rest waits. -/
theorem takes_bind_last {procedure : Procedure Value} {next : Value → Procedure Next}
    (begins : Takes isWait 0 procedure.run)
    (continues : ∀ value, Takes isWait limit (next value).run) :
    Takes isWait limit (procedure >>= next).run :=
  (takes_bind begins continues).mono (Nat.le_of_eq (Nat.zero_add limit))

/-- The case of `takes_bind` where only the first part waits. -/
theorem takes_bind_first {procedure : Procedure Value} {next : Value → Procedure Next}
    (begins : Takes isWait limit procedure.run)
    (continues : ∀ value, Takes isWait 0 (next value).run) :
    Takes isWait limit (procedure >>= next).run :=
  takes_bind begins continues

/-- A lifted program waits as often as the program. -/
theorem takes_lift {program : Session Value} (takes : Takes isWait limit program) :
    Takes isWait limit (liftM program : Procedure Value).run :=
  takes_andThen takes fun _ => takes_done _

/-- In front of a question that lets no time pass. -/
theorem takes_ask {asked : Question} {resume : Answer asked → Session Value}
    (instant : ∀ milliseconds, asked ≠ .sleep milliseconds)
    (continues : ∀ answer, Takes isWait limit (resume answer)) :
    Takes isWait limit (.ask asked resume) := by
  intro own result converses
  cases converses with
  | ask answer rest =>
    obtain ⟨waits, few, spends⟩ := continues answer _ _ rest
    have begun : Spends isWait 0 [⟨asked, answer⟩] := .single instant
    have all := begun.append spends
    rw [Nat.zero_add] at all
    exact ⟨waits, few, all⟩

/-- A call takes no wait. -/
theorem takes_perform (call : Call) (component : Option Component) (target : Option String) :
    Takes isWait 0 (Procedure.perform call component target).run := by
  rw [Procedure.perform_run]
  refine takes_ask nofun fun answer => ?_
  cases answer with
  | ok _ => exact takes_done _
  | error _ => exact takes_done _

/-- A look at the status takes no wait. -/
theorem takes_observe (tolerates : Tolerance) (component : Option Component) :
    Takes isWait 0 (Wait.observe tolerates component).run := by
  rw [Wait.observe_run]
  exact takes_ask nofun fun _ => takes_done _

end Takes

/-- The exchanges are a wait in the turn of a component. -/
def Wait.Made (times : WaitTimes) (component : Component) (own : History) : Prop :=
  ∃ tolerates account transition outcome, (∀ other, account = some other → other = component) ∧
    Converses (await tolerates account transition times).run own outcome

/-- A wait that is made on time, and whose longest time the clock can show, ends in time. -/
theorem Wait.Made.inTime {times : WaitTimes} {component : Component} {own : History} {start : Nat}
    (positive : 1 ≤ times.interval) (made : Made times component own)
    (onTime : Throughout (OnTime start) own) (shown : start + times.longest ≤ horizon) :
    InTime times component own := by
  obtain ⟨_, _, _, _, named, converses⟩ := made
  have deadline : times.timeout * 1000 ≤ times.longest := Nat.le_max_left _ _
  exact await_inTime named positive (by omega) converses onTime

namespace Plan

variable {isWait : History → Prop} {component : Component}

/-- The groups are configured without a wait. -/
theorem configureGroupsAfter_takes {previous : Option String} {declared : List DeclaredGroup} :
    Takes isWait 0 (configureGroupsAfter component previous declared).run := by
  induction declared generalizing previous with
  | nil => exact takes_done _
  | cons group rest inductionHypothesis =>
    refine takes_bind_last (takes_perform _ _ _) fun _ => takes_bind_last (takes_perform _ _ _) fun _ => ?_
    cases previous with
    | none => exact inductionHypothesis
    | some anchor => exact takes_bind_last (takes_perform _ _ _) fun _ => inductionHypothesis

/-- The settings are configured without a wait. -/
theorem configureSettings_takes {declared : Option DeclaredSettings} :
    Takes isWait 0 (configureSettings component declared).run := by
  cases declared with
  | none => exact takes_done _
  | some settings =>
    exact takes_bind_last (takes_perform _ _ _) fun _ => takes_bind_last (takes_perform _ _ _) fun _ =>
      takes_done _

end Plan

namespace Run

variable (run : Run) (component : Component)

/-- A wait on account of a component is one wait for it. -/
theorem await_takes (account : Option Component) (transition : Transition)
    (named : ∀ other, account = some other → other = component) :
    Takes (Wait.Made run.wait component) 1 (run.await {} account transition).run := by
  intro own outcome converses
  exact ⟨1, Nat.le_refl 1, Spends.nothing.wait ⟨_, _, _, _, named, converses⟩⟩

/-- A component settles within one wait. -/
theorem settle_takes (entry : Observation) :
    Takes (Wait.Made run.wait component) 1 (run.settle {} component entry).run := by
  have settling : Takes (Wait.Made run.wait component) 1
      (run.await {} (some component) Transition.untilStable).run :=
    run.await_takes component _ _ fun _ => own
  rcases settle_cases run component entry with ⟨_, _, same⟩ | same | ⟨_, same⟩ <;> rw [same]
  · exact takes_bind_last (takes_perform _ _ _) fun _ => settling
  · exact settling
  · exact (takes_done _).mono (Nat.zero_le 1)

/-- A component is prepared without a wait. -/
theorem prepare_takes {isWait : History → Prop} :
    Takes isWait 0 (run.prepare component).run := by
  refine takes_bind_last (takes_perform _ _ _) fun _ => ?_
  cases run.plan? component with
  | none => exact takes_done _
  | some plan =>
    exact takes_bind_last Plan.configureGroupsAfter_takes fun _ => Plan.configureSettings_takes

/-- A launch waits once, for the whole upgrade. -/
theorem launch_takes :
    Takes (Wait.Made run.wait component) 1 (run.launch {} component).run := by
  refine takes_bind_first (run.await_takes component none _ nofun) fun _ => ?_
  by_cases customizable : component.customizable = true
  · simp only [customizable]
    exact takes_bind_last (run.prepare_takes component) fun _ => takes_perform _ _ _
  · simp only [customizable]
    exact takes_perform _ _ _

/-- The upgrade of a component ends within one wait. -/
theorem finish_takes :
    Takes (Wait.Made run.wait component) 1 (run.finish component).run :=
  takes_bind_first (run.await_takes component _ _ fun _ => own) fun _ => takes_done _

/-- What is left of a turn takes two waits at most. -/
theorem conclude_takes (entry : Observation) :
    Takes (Wait.Made run.wait component) 2 (run.conclude component entry).run := by
  rcases conclude_cases run component entry with ⟨_, same⟩ | ⟨_, same⟩ | ⟨_, _, same⟩ <;> rw [same]
  · exact (takes_done _).mono (Nat.zero_le 2)
  · exact (run.finish_takes component).mono (Nat.le_succ 1)
  · exact takes_bind (run.launch_takes component) fun _ => run.finish_takes component

/-- In its turn a component is waited for to settle, for the whole upgrade to settle, and to be
upgraded. -/
theorem driveComponent_takes :
    Takes (Wait.Made run.wait component) 3 (run.driveComponent {} component).run := by
  rw [driveComponent_eq]
  exact takes_bind_last (takes_observe _ _) fun _ =>
    takes_bind (run.settle_takes component _) fun _ => run.conclude_takes component _

/-- The checks are started without a wait. -/
theorem startChecks_takes {isWait : History → Prop} (checked : List Component) :
    Takes isWait 0 (startChecks checked) := by
  induction checked with
  | nil => exact takes_done _
  | cons component rest inductionHypothesis =>
    refine takes_ask nofun fun answer => ?_
    cases answer with
    | ok _ => exact takes_andThen inductionHypothesis fun _ => takes_done _
    | error _ => exact inductionHypothesis

/-- The exchanges are turns of components in their order, each with three waits at most. -/
structure CutInto (isWait : Component → History → Prop) (components : List Component) (own : History)
    (turns : List (Component × History)) : Prop where
  split : own = turns.flatMap Prod.snd
  inOrder : turns.map Prod.fst <+: components
  few : ∀ turn ∈ turns, ∃ waits ≤ 3, Spends (isWait turn.1) waits turn.2

namespace CutInto

variable {isWait : Component → History → Prop} {components : List Component} {own later : History}
  {turns : List (Component × History)} {component : Component}

theorem nothing : CutInto isWait components [] [] :=
  ⟨rfl, List.nil_prefix, nofun⟩

/-- In front of the turns of the other components there is one of the first. -/
theorem cons {waits : Nat} (few : waits ≤ 3) (spends : Spends (isWait component) waits own)
    (cut : CutInto isWait components later turns) :
    CutInto isWait (component :: components) (own ++ later) ((component, own) :: turns) where
  split := by simp [cut.split]
  inOrder := List.cons_prefix_cons.2 ⟨rfl, cut.inOrder⟩
  few := by
    intro turn member
    rcases List.mem_cons.1 member with rfl | member
    · exact ⟨waits, few, spends⟩
    · exact cut.few turn member

end CutInto

/-- To do something with the value of a procedure adds nothing to its conversations. -/
theorem converses_of_bind_pure {Value Next : Type} {procedure : Procedure Value}
    {change : Value → Next} {own : History} {outcome : Except Failure Next}
    (converses : Converses (procedure >>= fun value => return change value : Procedure Next).run own
      outcome) : ∃ result, Converses procedure.run own result := by
  obtain ⟨before, after, middle, rfl, begun, ended⟩ := converses_andThen_iff.1 converses
  obtain rfl : after = [] := by
    cases middle <;> cases ended <;> rfl
  rw [List.append_nil]
  exact ⟨middle, begun⟩

/-- What is driven is cut into turns, up to where it ends early. -/
theorem drive_turns {components : List Component} {partialSeen : Bool} {own : History}
    {outcome : Except Failure (List ComponentReport)}
    (converses : Converses (run.drive {} components partialSeen).run own outcome) :
    ∃ turns, CutInto (Wait.Made run.wait) components own turns := by
  induction components generalizing partialSeen own outcome with
  | nil =>
    cases converses
    exact ⟨[], .nothing⟩
  | cons component rest inductionHypothesis =>
    cases converses with
    | @ask _ _ own _ stop converses =>
      have asked : Spends (Wait.Made run.wait component) 0 [⟨.stopRequested, stop⟩] :=
        .single nofun
      cases stop with
      | true =>
        cases converses
        exact ⟨_, CutInto.nothing.cons (Nat.zero_le 3) asked⟩
      | false =>
        by_cases skipped : (decide (component = .management) && partialSeen) = true
        · have goesOn : Converses (run.drive {} rest partialSeen >>= fun reports =>
              return ⟨component, .skipped, none⟩ :: reports : Procedure _).run own outcome := by
            simp only [skipped] at converses
            exact converses
          obtain ⟨_, driven⟩ := converses_of_bind_pure goesOn
          obtain ⟨turns, cut⟩ := inductionHypothesis driven
          exact ⟨_, cut.cons (Nat.zero_le 3) asked⟩
        · have goesOn : Converses (run.driveComponent {} component >>= fun report =>
              run.drive {} rest (partialSeen || report.outcome = .partiallyCompleted) >>= fun reports =>
                return report :: reports : Procedure _).run own outcome := by
            simp only [skipped] at converses
            exact converses
          obtain ⟨before, after, middle, rfl, begun, ended⟩ := converses_andThen_iff.1 goesOn
          obtain ⟨waits, few, spends⟩ := run.driveComponent_takes component _ _ begun
          have turn := asked.append spends
          rw [Nat.zero_add] at turn
          cases middle with
          | error _ =>
            cases ended
            exact ⟨_, CutInto.nothing.cons few turn⟩
          | ok report =>
            obtain ⟨_, driven⟩ := converses_of_bind_pure ended
            obtain ⟨turns, cut⟩ := inductionHypothesis driven
            exact ⟨_, cut.cons few turn⟩

/-- A run is cut into the turns of its components and, after them, questions that let no time
pass. -/
theorem execute_turns {own : History} {outcome : Except Failure Report}
    (converses : Converses (run.execute {}).run own outcome) :
    ∃ driven checks turns, own = driven ++ checks ∧
      CutInto (Wait.Made run.wait) Component.ordered driven turns ∧
      Spends (fun _ => False) 0 checks := by
  obtain ⟨driven, checks, middle, rfl, begun, ended⟩ := converses_andThen_iff.1 converses
  obtain ⟨turns, cut⟩ := run.drive_turns begun
  refine ⟨driven, checks, turns, rfl, cut, ?_⟩
  cases middle with
  | error _ =>
    cases ended
    exact .nothing
  | ok _ =>
    obtain ⟨_, ended⟩ := converses_of_bind_pure ended
    obtain ⟨waits, none, spends⟩ := takes_lift (startChecks_takes _) _ _ ended
    rwa [Nat.le_zero.1 none] at spends

variable {run}

/-- Turns that are on time are in their time. -/
theorem turns_inTime {turns : List (Component × History)} {start : Nat}
    (positive : 1 ≤ run.wait.interval)
    (few : ∀ turn ∈ turns, ∃ waits ≤ 3, Spends (Wait.Made run.wait turn.1) waits turn.2)
    (onTime : Throughout (OnTime start) (turns.flatMap Prod.snd))
    (shown : start + turns.length * (3 * run.wait.longest) ≤ Wait.horizon) :
    (∀ turn ∈ turns, ∃ waits ≤ 3, Spends (Wait.InTime run.wait turn.1) waits turn.2) ∧
      elapsed (turns.flatMap Prod.snd) ≤ turns.length * (3 * run.wait.longest) := by
  induction turns generalizing start with
  | nil => exact ⟨nofun, Nat.zero_le _⟩
  | cons turn rest inductionHypothesis =>
    rw [List.flatMap_cons, throughout_onTime_append] at onTime
    rw [List.length_cons, Nat.succ_mul] at shown ⊢
    obtain ⟨waits, fewHere, spends⟩ := few turn (by simp)
    have most : waits * run.wait.longest ≤ 3 * run.wait.longest :=
      Nat.mul_le_mul_right _ fewHere
    obtain ⟨timely, taken⟩ := spends.inTime
      (fun begun waited made onTime shown =>
        have timely := made.inTime positive onTime shown
        ⟨timely, timely.paused⟩)
      onTime.1 (by omega)
    obtain ⟨later, takenLater⟩ := inductionHypothesis
      (fun turn member => few turn (List.mem_cons_of_mem _ member)) onTime.2 (by omega)
    refine ⟨fun other member => ?_, ?_⟩
    · rcases List.mem_cons.1 member with rfl | member
      · exact ⟨waits, fewHere, timely⟩
      · exact later other member
    · rw [List.flatMap_cons, elapsed_append]
      omega

end Run

/-- Whatever the manager replies to an accepted run, if calls take no time and nobody tells the run to
stop, it ends.  It is cut into the turns of its components in their order, with three waits at most in
each, and nothing else lets time pass.  Each wait makes one probe and another one for each interval, or
part of one, between the delay and the timeout.  All of them together take nine times the longer of
the two at most. -/
theorem Run.execute_ends_inTime {spec : Spec} (accepted : spec.fault? = none)
    (reply : History → (call : Call) → call.Answer) (start : Nat)
    (shown : start + 9 * spec.wait.longest ≤ Wait.horizon) :
    ∃ own outcome, (spec.toRun.execute {}).run.converse (promptAnswer reply start) [] = (own, outcome) ∧
      Converses (spec.toRun.execute {}).run own outcome ∧
      (∃ driven checks turns, own = driven ++ checks ∧
        CutInto (Wait.InTime spec.wait) Component.ordered driven turns ∧
        Spends (fun _ => False) 0 checks) ∧
      elapsed own ≤ 9 * (max spec.wait.timeout spec.wait.delay * 1000) := by
  obtain ⟨own, held, converses, given⟩ :=
    converse_spec (promptAnswer reply start) (spec.toRun.execute {}).run []
  rw [List.nil_append] at held
  have onTime : Throughout (OnTime start) own := by
    intro earlier exchange later split
    have answered := given earlier exchange later split
    obtain ⟨asked, answer⟩ := exchange
    obtain rfl : answer = promptAnswer reply start earlier asked := answered
    exact onTime_promptAnswer earlier asked
  obtain ⟨driven, checks, turns, rfl, cut, unpaused⟩ := spec.toRun.execute_turns converses
  obtain ⟨before, after⟩ := throughout_onTime_append.1 onTime
  have three : turns.length ≤ 3 := by
    simpa [Component.ordered] using cut.inOrder.length_le
  have most : turns.length * (3 * spec.wait.longest) ≤ 9 * spec.wait.longest := by
    have scaled := Nat.mul_le_mul_right (3 * spec.wait.longest) three
    omega
  have longest : spec.wait.longest = max spec.wait.timeout spec.wait.delay * 1000 := by
    simp only [WaitTimes.longest]
    omega
  obtain ⟨⟨-, interval⟩, -⟩ := Spec.keeps_of_fault? accepted none .wait (by decide)
  obtain ⟨timely, taken⟩ := turns_inTime interval cut.few (cut.split ▸ before)
    (Nat.le_trans (Nat.add_le_add_left most start) shown)
  have still : Spends (fun _ => False) 0 checks ∧ elapsed checks ≤ 0 * 0 :=
    unpaused.inTime (fun _ _ isWait => isWait.elim) after (Nat.le_refl _)
  refine ⟨_, _, Prod.ext held rfl, converses,
    ⟨driven, checks, turns, rfl, ⟨cut.split, cut.inOrder, timely⟩, unpaused⟩, ?_⟩
  have spent : elapsed driven ≤ turns.length * (3 * spec.wait.longest) := cut.split ▸ taken
  have still := still.2
  rw [elapsed_append, ← longest]
  omega

/-- A spec that leaves two seconds to each wait. -/
def Spec.hasty : Spec where
  upgradePrepareReadyId := "ready"
  manager := { url := "http://nsx.test", credentials := { name := "admin" } }
  wait := { timeout := 2, interval := 1, delay := 1 }

/-- What a manager replies where every component stays at work, also when it is told to pause. -/
def replyAtWork (_ : History) : (call : Call) → call.Answer
  | .getStatus (some component) =>
    .ok ⟨.inProgress, [⟨component.wire, .inProgress, none, none⟩]⟩
  | .pause => .ok ()
  | call => .error (.notFound call.operation.label)

/-- Such a manager is given up on when the first wait is over. -/
theorem Run.execute_ends_inTime_hasty :
    Spec.hasty.fault? = none ∧ 0 + 9 * Spec.hasty.wait.longest ≤ Wait.horizon ∧
      ∃ own outcome,
        (Spec.hasty.toRun.execute {}).run.converse (promptAnswer replyAtWork 0) [] = (own, outcome) ∧
        elapsed own ≤ 9 * (2 * 1000) ∧ elapsed own = 2000 ∧ probes own = 3 := by
  have accepted : Spec.hasty.fault? = none := by decide +kernel
  have shown : 0 + 9 * Spec.hasty.wait.longest ≤ Wait.horizon := by decide +kernel
  have spent : elapsed ((Spec.hasty.toRun.execute {}).run.converse
      (promptAnswer replyAtWork 0) []).1 = 2000 := by
    decide +kernel
  have probed : probes ((Spec.hasty.toRun.execute {}).run.converse
      (promptAnswer replyAtWork 0) []).1 = 3 := by
    decide +kernel
  obtain ⟨own, outcome, same, -, -, taken⟩ :=
    Run.execute_ends_inTime accepted replyAtWork 0 shown
  rw [same] at spent probed
  exact ⟨accepted, shown, own, outcome, same, taken, spent, probed⟩

end FabricUpgrade
