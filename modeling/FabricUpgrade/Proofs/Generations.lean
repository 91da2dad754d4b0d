import FabricUpgrade.Proofs.Identity

/-!
# One execution for each generation

A generation is recorded as observed when it was rejected or when its upgrade ended by itself, and
from then on it is not executed any more.  Where the upgrade is stopped nothing is recorded but that
the run is running, so that the next reconcile executes it again.
-/

namespace FabricUpgrade

open Program

namespace Reconcile

namespace Worker

/-- The run was rejected in the reconcile, or its upgrade was driven to an end other than a stop. -/
def Concluded (worker : Worker) : Prop :=
  worker.run.fault?.isSome = true ∨ ∃ driven result,
    Drove worker.run (Ledger.ofHistory worker.past) driven result ∧
      ∀ component, result ≠ .error (.cancelled component)

/-- The upgrade of the run was stopped in the reconcile. -/
def Cancelled (worker : Worker) : Prop :=
  ∃ driven component,
    Drove worker.run (Ledger.ofHistory worker.past) driven (.error (.cancelled component))

/-- All that is left of the reconcile is to tell of what was done and to give the claim up. -/
def Settling (worker : Worker) : Prop :=
  ∀ exchanges asked, Asks worker.rest exchanges asked →
    asked.isQuiet = true ∨ ∃ url, asked = .release url

end Worker

section Tasks

variable {run : RunObject} {past : History} {rest : Reconcile (Except ReconcileError Action)}

/-- A run that is executed has not been observed. -/
theorem not_isObserved_of_task (executes : task run = .execute) : ¬ isObserved run = true := by
  intro observed
  unfold task at executes
  by_cases finalizes :
      run.metadata.deletionTimestamp.isSome = true ∨ finalizer ∉ run.metadata.allFinalizers
  · rw [if_pos finalizes] at executes
    cases executes
  · rw [if_neg finalizes, if_pos observed] at executes
    cases executes

/-- A run that is to be executed has not been observed in its generation. -/
theorem observedGeneration_ne_of_task (executes : task run = .execute) {generation : Int}
    (carried : run.metadata.generation = some generation) :
    run.recorded.observedGeneration ≠ some generation := fun observed =>
  not_isObserved_of_task executes (by simp [isObserved, carried, observed])

/-- A run is executed unless it is deleted, its finalizer is missing, or it has been observed. -/
theorem task_eq_execute (alive : run.metadata.deletionTimestamp = none)
    (guarded : finalizer ∈ run.metadata.allFinalizers) (unobserved : ¬ isObserved run = true) :
    task run = .execute := by
  have kept : ¬ (run.metadata.deletionTimestamp.isSome = true ∨
      finalizer ∉ run.metadata.allFinalizers) := by
    simp [alive, guarded]
  unfold task
  rw [if_neg kept, if_neg unobserved]

-- A reconcile is known by what it obeys; to compute it would be to compute on texts.
attribute [local irreducible] reconcile

/-- How far the execution of a run has come. -/
theorem progress_of_reaches (executes : task run = .execute)
    (begun : Reaches (reconcile run {}).run past rest) : Progress run (Ledger.ofHistory past) := by
  have obeys : (reconcile run {}).run.Obeys (Undertaking run (task run))
      (fun after result => Yielded run (Ledger.ofHistory after) result) [] :=
    reconcile_obeys_task Ledger.ofHistory_nil
  rw [executes] at obeys
  have opening : Progress run (Ledger.ofHistory []) := .opening rfl rfl rfl
  exact obeys.kept (fun past => Progress run (Ledger.ofHistory past)) begun opening
    fun past exchange executing progress => progress.snoc executing

/-- What is said at the manager by a reconcile that does not execute the run is the beginning of a
collection of the outputs. -/
theorem collecting_of_reaches (rests : task run ≠ .execute)
    (begun : Reaches (reconcile run {}).run past rest) :
    ∃ left, Reaches Outputs.collect.run (Ledger.ofHistory past).managed left := by
  have obeys : (reconcile run {}).run.Obeys (Undertaking run (task run))
      (fun after result => Yielded run (Ledger.ofHistory after) result) [] :=
    reconcile_obeys_task Ledger.ofHistory_nil
  refine obeys.kept (fun past => ∃ left, Reaches Outputs.collect.run (Ledger.ofHistory past).managed
    left) begun ⟨_, .here _⟩ ?_
  rintro past ⟨asked, answer⟩ undertaking ⟨left, collected⟩
  rw [Ledger.ofHistory_snoc]
  cases assigned : task run with
  | execute => exact absurd assigned rests
  | finalize =>
    rw [assigned] at undertaking
    rcases undertaking with ⟨_, quiet⟩ | _
    · rw [Ledger.enter_of_isQuiet quiet]
      exact ⟨left, collected⟩
    · exact ⟨left, collected⟩
  | refresh =>
    rw [assigned] at undertaking
    rcases undertaking with ⟨_, quiet⟩ | ⟨_, known, resume, asks⟩ | _
    · rw [Ledger.enter_of_isQuiet quiet]
      exact ⟨left, collected⟩
    · rw [known]
      exact ⟨resume answer, asks.answered answer⟩
    · exact ⟨left, collected⟩

/-- Where the upgrade was driven to an end, the run is executed. -/
theorem task_of_drove {driven : Session.History} {result : Except Failure Report}
    (begun : Reaches (reconcile run {}).run past rest)
    (drove : Drove run (Ledger.ofHistory past) driven result) : task run = .execute := by
  by_cases executes : task run = .execute
  · exact executes
  · obtain ⟨left, collected⟩ := collecting_of_reaches executes begun
    obtain ⟨converses, later, managed⟩ := drove
    -- The first thing that an execution says is a question that no collection asks.
    obtain ⟨drive, driver⟩ : ∃ resume, run.driver = .ask .stopRequested resume := ⟨_, rfl⟩
    obtain ⟨list, collect⟩ : ∃ resume, Outputs.collect.run =
      .ask (.call (.listGroups none)) resume := ⟨_, rfl⟩
    rw [driver] at converses
    rw [managed, collect] at collected
    cases converses with
    | ask _ _ => cases collected

end Tasks

namespace Moment

variable {before after : Moment} {members : Json.Members} {worker : Worker} {run : RunObject}

attribute [local irreducible] reconcile

/-- A closed execution only tells of what was done and gives its claim up. -/
theorem Attended.settling (attended : Attended members worker)
    (executes : task worker.run = .execute)
    (closed : Closed worker.run (Ledger.ofHistory worker.past)) : worker.Settling := by
  have obeys := (reconcile_obeys_task Ledger.ofHistory_nil).reaches attended.begun
  rw [executes, List.nil_append] at obeys
  intro exchanges asked asks
  have kept := (obeys.keeps (fun past => Closed worker.run (Ledger.ofHistory past)) closed
    fun past exchange executing closed => closed.snoc executing).permits asks
  exact kept.1.settles kept.2

/-- What a step that makes a generation observed has to be. -/
theorem observes_of_step (sound : Sound before) (step : Step before after) {generation : Int}
    (observed : after.recorded.observedGeneration = some generation)
    (unobserved : before.recorded.observedGeneration ≠ some generation) :
    ∃ worker, after.worker = some worker ∧ worker.run.metadata.generation = some generation ∧
      worker.Concluded ∧ worker.Settling := by
  have soundAfter := sound_of_step sound step
  rcases recorded_of_step sound step with same | records
  · exact absurd (same ▸ observed) unobserved
  · cases records with
    | @write run past target other status shown resume reply members working writing which laid =>
      simp only [recorded, laid, Option.getD_some] at observed
      have hidden : shown.observedGeneration ≠ some generation := by
        rcases which with rfl | rfl
        · exact unobserved
        · simp
      have shows : status.observedGeneration = some generation := by
        rcases Option.or_eq_some_iff.1 observed with shows | ⟨-, shows⟩
        · exact shows
        · exact absurd shows hidden
      have attended := soundAfter _ rfl
      have entered : (Ledger.ofHistory
          (past ++ [⟨.store (.writeStatus target other status), reply⟩])).written =
            (Ledger.ofHistory past).written ++ [status] := by
        rw [Ledger.ofHistory_snoc]
        rfl
      cases writing with
      -- What is written at the start and with new outputs has the generation that was recorded.
      | start _ _ _ same | refresh _ _ same => exact absurd (same ▸ shows) unobserved
      | reject time executes faulty written same =>
        refine ⟨_, rfl, shows, .inl (by simp [faulty]), attended.settling executes ?_⟩
        exact .rejected (entered.trans (by rw [written]; rfl))
      | @finish runId time driven result _ executes written underway drove uncancelled ends =>
        have carried : run.metadata.generation = some generation := by
          cases ends <;> exact shows
        have droveStill : Drove run (Ledger.ofHistory
            (past ++ [⟨.store (.writeStatus target other status), reply⟩])) driven result := by
          rw [Ledger.ofHistory_snoc]
          exact drove
        refine ⟨_, rfl, carried, .inr ⟨driven, result, droveStill, uncancelled⟩,
          attended.settling executes ?_⟩
        exact .finished (entered.trans (by rw [written]; rfl))

/-- Refreshed outputs change nothing else of what is recorded. -/
theorem laidOver_withOutputs {stored shown : RunStatus} (which : shown = stored ∨ shown = {})
    (outputs : Outputs) :
    ∃ refreshed, (stored.withOutputs outputs).laidOver shown = stored.withOutputs refreshed := by
  refine ⟨((stored.withOutputs outputs).laidOver shown).outputs, ?_⟩
  have conditions : (Json.listed? stored.conditions).getD shown.conditions = stored.conditions := by
    rcases which with rfl | rfl
    · exact RunStatus.getD_listed?_eq_left_iff.2 id
    · exact RunStatus.getD_listed?_eq_left_iff.2 fun _ => rfl
  simp only [RunStatus.laidOver, RunStatus.withOutputs, RunStatus.outputs,
    or_of_which RunStatus.runId rfl which, or_of_which RunStatus.upgradePrepareReadyId rfl which,
    or_of_which RunStatus.errorMessage rfl which,
    or_of_which RunStatus.observedGeneration rfl which, or_of_which RunStatus.lastRunAt rfl which,
    conditions]

/-- While the generation that is reconciled is recorded as observed, the manager is only asked what
to read. -/
theorem reads_of_observed (attended : Attended before.members worker) {generation : Int}
    (carried : worker.run.metadata.generation = some generation)
    (observed : before.recorded.observedGeneration = some generation) {endpoint : Endpoint}
    {asked : Session.Question}
    {resume : Answer (.manager endpoint asked) → Reconcile (Except ReconcileError Action)}
    (asks : worker.rest = .ask (.manager endpoint asked) resume) : Session.Reads asked := by
  obtain ⟨run, past, rest⟩ := worker
  subst asks
  by_cases executes : task run = .execute
  · obtain ⟨stored, runId, read, underway⟩ := attended.underway executes
    obtain rfl : before.recorded = stored := by simp [recorded, read]
    exact absurd (underway.observedGeneration ▸ observed)
      (observedGeneration_ne_of_task executes carried)
  · exact attended.reads executes

/-- While the generation that is reconciled is recorded as observed, only the recorded outputs
change. -/
theorem withOutputs_of_observed (sound : Sound before) (working : before.worker = some worker)
    {generation : Int} (carried : worker.run.metadata.generation = some generation)
    (observed : before.recorded.observedGeneration = some generation) (step : Step before after) :
    ∃ outputs, after.recorded = before.recorded.withOutputs outputs := by
  rcases recorded_of_step sound step with same | records
  · exact ⟨before.recorded.outputs, same⟩
  · cases records with
    | write reply busy writing which laid =>
      obtain rfl := Option.some.inj (working.symm.trans busy)
      simp only [recorded, laid, Option.getD_some]
      cases writing with
      | reject _ executes _ _ same | start _ executes _ same =>
        exact absurd (same ▸ observed) (observedGeneration_ne_of_task executes carried)
      | finish executes _ underway _ _ _ =>
        exact absurd (underway.observedGeneration ▸ observed)
          (observedGeneration_ne_of_task executes carried)
      | refresh outputs _ same =>
        rw [← same]
        exact laidOver_withOutputs which outputs

/-- A step that begins no reconcile. -/
def Idles (before after : Moment) : Prop :=
  Step before after ∧ (before.worker = none → after.worker = none)

/-- What holds from the moment on at which an execution is closed until the next reconcile. -/
structure Rests (stored : RunStatus) (moment : Moment) : Prop where
  sound : Sound moment
  recorded : moment.recorded = stored
  guarded : Guarded moment.members
  closed : ∀ worker, moment.worker = some worker →
    task worker.run = .execute ∧ Closed worker.run (Ledger.ofHistory worker.past)

/-- What is at rest stays so through a step that begins no reconcile. -/
theorem rests_of_idles {stored : RunStatus} (rests : Rests stored before)
    (idles : Idles before after) : Rests stored after := by
  obtain ⟨step, begins⟩ := idles
  have sound := sound_of_step rests.sound step
  have recorded : after.recorded = before.recorded := by
    rcases recorded_of_step rests.sound step with same | records
    · exact same
    · cases records with
      | write reply working writing which laid =>
        -- A closed execution writes no status.
        obtain ⟨executes, closed⟩ := rests.closed _ working
        have undertaking := (rests.sound _ working).undertaking
        rw [executes] at undertaking
        rcases closed.settles undertaking with quiet | ⟨_, impossible⟩
        · cases quiet
        · cases impossible
  refine ⟨sound, recorded.trans rests.recorded, ?_, ?_⟩
  · cases step with
    | edit members unwritten guarded => exact guarded rests.guarded
    | start idle read => cases begins idle
    | leave => exact rests.guarded
    | answer reply working serves => exact (sound _ rfl).guarded (rests.closed _ working).1
  · intro worker working
    cases step with
    | edit members unwritten guarded => exact rests.closed worker working
    | start idle read => cases begins idle
    | leave => cases working
    | answer reply busy serves =>
      cases working
      obtain ⟨executes, closed⟩ := rests.closed _ busy
      have undertaking := (rests.sound _ busy).undertaking
      rw [executes] at undertaking
      exact ⟨executes, closed.snoc undertaking⟩

/-- What is at rest stays so until the next reconcile begins. -/
theorem rests_of_idling {stored : RunStatus} (rests : Rests stored before)
    (idling : Relation.ReflTransGen Idles before after) : Rests stored after := by
  induction idling with
  | refl => exact rests
  | tail _ idles inductionHypothesis => exact rests_of_idles inductionHypothesis idles

/-- Whatever an execution asks to be written of a run with a recorded identity has that identity. -/
theorem runId_of_asks (executes : task run = .execute) {runId target other : String}
    (known : run.recorded.runId = some runId) {past : History} {status : RunStatus}
    (asks : Asks (reconcile run {}).run past (.store (.writeStatus target other status))) :
    status.runId = some runId := by
  have undertaking := (reconcile_obeys_task Ledger.ofHistory_nil).permits asks
  rw [executes] at undertaking
  cases undertaking with
  | quiet _ quiet => cases quiet
  | reject _ _ _ => exact known
  | start _ _ starts =>
    obtain rfl := starts.identity runId known
    rfl
  | finish _ starts _ ends =>
    obtain rfl := starts.identity runId known
    cases ends <;> rfl

/-- What a stop of the upgrade leaves behind. -/
structure Resumable (moment : Moment) (run : RunObject) : Prop where
  phase : moment.recorded.phase = .running
  observedGeneration : moment.recorded.observedGeneration = run.recorded.observedGeneration
  /-- The next reconcile, of the same generation or of one that is not recorded as observed,
  executes the run again under its identity. -/
  resumes : ∃ runId, moment.recorded.runId = some runId ∧
    ∀ after next, Relation.ReflTransGen Idles moment after →
      RunObject.ofJson? (.object after.members) = some next →
      (next.metadata.generation = run.metadata.generation ∨
        next.metadata.generation ≠ moment.recorded.observedGeneration) →
      next.metadata.deletionTimestamp = none → task next = .execute ∧
        ∀ past target other status,
          Asks (reconcile next {}).run past (.store (.writeStatus target other status)) →
            status.runId = some runId

/-- A worker that was cancelled leaves a run that can be resumed. -/
theorem resumable_of_cancelled (sound : Sound before) (working : before.worker = some worker)
    (cancelled : worker.Cancelled) : before.Resumable worker.run := by
  have attended := sound worker working
  obtain ⟨driven, component, drove⟩ := cancelled
  have executes := task_of_drove attended.begun drove
  obtain ⟨runId, time, starts, written, kept⟩ :=
    (progress_of_reaches executes attended.begun).of_cancelled drove
  obtain ⟨stored, read, stands⟩ := attended.stands
  obtain rfl : before.recorded = stored := by simp [recorded, read]
  have underway := (written ▸ stands kept).underway
  refine ⟨underway.phase, underway.observedGeneration, runId, underway.runId, ?_⟩
  intro after next idling found generation alive
  have closed : Rests before.recorded before := by
    refine ⟨sound, rfl, attended.guarded executes, fun other busy => ?_⟩
    obtain rfl := Option.some.inj (working.symm.trans busy)
    exact ⟨executes, .cancelled drove⟩
  have rests : Rests before.recorded after := rests_of_idling closed idling
  have same : next.recorded = before.recorded := by
    simpa [recorded, RunObject.statusIn?_of_ofJson? found] using rests.recorded
  have guarded : finalizer ∈ next.metadata.allFinalizers := by
    obtain ⟨metadata, read, guards⟩ := rests.guarded
    obtain rfl := Option.some.inj (read.symm.trans (RunObject.metadataIn?_of_ofJson? found))
    exact guards
  have unobserved : ¬ isObserved next = true := by
    rcases generation with sameGeneration | unseen
    · have unobserved := not_isObserved_of_task executes
      simpa [isObserved, sameGeneration, same, underway.observedGeneration] using unobserved
    · simp [isObserved, same, Ne.symm unseen]
  have resumes := task_eq_execute alive guarded unobserved
  exact ⟨resumes, fun past target other status asks =>
    runId_of_asks resumes (same ▸ underway.runId) asks⟩

/-- What a moment says about the recorded generation. -/
structure Generational (moment : Moment) : Prop where
  /-- A generation becomes observed at the end of a reconcile of it in which it was rejected or its
  upgrade was driven to an end other than a stop. -/
  concluded : ∀ after generation, Step moment after →
    after.recorded.observedGeneration = some generation →
    moment.recorded.observedGeneration ≠ some generation →
    ∃ worker, after.worker = some worker ∧ worker.run.metadata.generation = some generation ∧
      worker.Concluded ∧ worker.Settling
  /-- While the generation that is reconciled is observed, the manager is only asked what to read,
  and only the recorded outputs change. -/
  reading : ∀ worker generation, moment.worker = some worker →
    worker.run.metadata.generation = some generation →
    moment.recorded.observedGeneration = some generation →
    (∀ endpoint asked resume, worker.rest = .ask (.manager endpoint asked) resume →
      Session.Reads asked) ∧
    ∀ after, Step moment after → ∃ outputs, after.recorded = moment.recorded.withOutputs outputs
  /-- A stop of the upgrade leaves the run to be executed again. -/
  resumable : ∀ worker, moment.worker = some worker → worker.Cancelled →
    moment.Resumable worker.run

/-- In every history of a stored run a generation that is not deleted is executed until it was
rejected or its upgrade ended by itself, and after that its outputs are refreshed only. -/
theorem generational_of_reachable (moment : Moment) (reachable : Reachable moment) :
    moment.Generational := by
  have sound := sound_of_reachable reachable
  refine ⟨fun after generation step observed unobserved => ?_,
    fun worker generation working carried observed => ⟨?_, ?_⟩, fun worker working cancelled => ?_⟩
  · exact observes_of_step sound step observed unobserved
  · exact fun endpoint asked resume asks =>
      reads_of_observed (sound worker working) carried observed asks
  · exact fun after step => withOutputs_of_observed sound working carried observed step
  · exact resumable_of_cancelled sound working cancelled

/-- A stored run of the second generation. -/
def secondMembers : Json.Members :=
  [("metadata", .object [("name", "upgrade"), ("generation", Json.nat 2),
      ("finalizers", .array ["nsx-upgrade.smoketurner.com/finalizer"])]),
    ("spec", .object [("upgradePrepareReadyId", "ready"),
      ("manager", .object [("url", "http://nsx.test"),
        ("credentialsSecret", .object [("name", "admin")])])])]

/-- The same as it is read. -/
def secondRun : RunObject :=
  { RunObject.plain "http://nsx.test" with
    metadata := { name := some "upgrade", generation := some 2, finalizers := some [finalizer] } }

/-- What a reconcile is answered that is told to stop. -/
def answerStopping : (asked : Question) → Answer asked
  | .manager _ .stopRequested => true
  | asked => answerUntouched asked

/-- The reconcile of the second generation whose upgrade was stopped before it was begun. -/
def secondStopped : Moment :=
  let steered := (reconcile secondRun {}).run.steer answerStopping 10
  ⟨steered.1.foldl serve secondMembers, some ⟨secondRun, steered.1, steered.2⟩⟩

/-- Whether an exchange tells the upgrade to stop. -/
def tellsToStop : Exchange Session.Question Session.Answer → Bool
  | ⟨.stopRequested, stop⟩ => stop
  | _ => false

/-- Only the question whether to stop tells to stop. -/
theorem eq_of_tellsToStop {exchange : Exchange Session.Question Session.Answer}
    (tells : tellsToStop exchange = true) : exchange = ⟨.stopRequested, true⟩ := by
  obtain ⟨asked, answer⟩ := exchange
  cases asked with
  | stopRequested => exact congrArg (Exchange.mk Session.Question.stopRequested) tells
  | call _ | now | sleep _ => cases tells

/-- A worker whose upgrade was told to stop at once was cancelled. -/
theorem cancelled_of_tellsToStop {past : History}
    {rest : Reconcile (Except ReconcileError Action)}
    {exchange : Exchange Session.Question Session.Answer}
    (said : (Ledger.ofHistory past).managed = [exchange]) (tells : tellsToStop exchange = true) :
    (Worker.mk run past rest).Cancelled := by
  have stopped : Converses run.driver [⟨.stopRequested, true⟩] (.error (.cancelled (some .edge))) :=
    .ask _ (.done _)
  exact ⟨_, some .edge, stopped, [], eq_of_tellsToStop tells ▸ said⟩

/-- A run that was stopped in its second generation is reached, and its next reconcile executes it. -/
theorem generational_of_reachable_secondStopped :
    ∃ after next, Reachable secondStopped ∧ secondStopped.recorded.phase = .running ∧
      secondStopped.recorded.observedGeneration = none ∧ Leads secondStopped after ∧
      RunObject.ofJson? (.object after.members) = some next ∧
      next.metadata.generation = some 2 ∧ task next = .execute := by
  have read : RunObject.ofJson? (.object secondMembers) = some secondRun := by
    decide +kernel
  have told : (Ledger.ofHistory
      ((reconcile secondRun {}).run.steer answerStopping 10).1).managed.map tellsToStop = [true] := by
    decide +kernel
  obtain ⟨exchange, said, tells⟩ := List.map_eq_singleton_iff.1 told
  have found : (RunObject.ofJson? (.object secondStopped.members)).any (fun next =>
      next.metadata.generation = some 2 && next.metadata.deletionTimestamp = none) = true := by
    decide +kernel
  have reachable : Reachable secondStopped :=
    reachable_of_reaches read (reaches_steer answerStopping 10 _)
  have generational := generational_of_reachable secondStopped reachable
  have resumable : secondStopped.Resumable secondRun :=
    generational.resumable _ rfl (cancelled_of_tellsToStop said tells)
  have leaves : Step secondStopped { secondStopped with worker := none } := .leave
  obtain ⟨runId, known, resumes⟩ := resumable.resumes
  cases decoded : RunObject.ofJson? (.object secondStopped.members) with
  | none => simp [decoded] at found
  | some next =>
    obtain ⟨carried, alive⟩ : next.metadata.generation = some 2 ∧
        next.metadata.deletionTimestamp = none := by
      simpa [decoded] using found
    exact ⟨_, next, reachable, resumable.phase, resumable.observedGeneration, .single leaves,
      decoded, carried,
      (resumes _ next (.single ⟨leaves, fun _ => rfl⟩) decoded (.inl carried) alive).1⟩

end Moment

end Reconcile

end FabricUpgrade
