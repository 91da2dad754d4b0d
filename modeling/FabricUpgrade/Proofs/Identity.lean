import FabricUpgrade.Proofs.Collecting
import FabricUpgrade.Proofs.Moments

/-!
# The identity of a run

The identity of a run and the preparation that it is for are recorded before the upgrade is begun,
and once they are recorded they stay.
-/

namespace FabricUpgrade

open Program

/-- The preparation of a run that is accepted is the recorded one, if there is one. -/
theorem RunObject.upgradePrepareReadyId_of_sound {run : RunObject} (sound : run.fault? = none)
    {prepared : String} (recorded : run.recorded.upgradePrepareReadyId = some prepared) :
    prepared = run.spec.upgradePrepareReadyId := by
  have kept :
      run.spec.immutabilityFault? (run.status.bind RunStatus.upgradePrepareReadyId) = none := by
    cases fault : run.spec.fault? with
    | none => simpa [RunObject.fault?, fault] using sound
    | some _ => simp [RunObject.fault?, fault] at sound
  have bound : run.status.bind RunStatus.upgradePrepareReadyId = some prepared := by
    cases status : run.status with
    | none => simp [RunObject.recorded, status] at recorded
    | some _ => simpa [RunObject.recorded, status] using recorded
  by_cases same : prepared = run.spec.upgradePrepareReadyId
  · exact same
  · simp [bound, Spec.immutabilityFault?, same] at kept

namespace Reconcile

namespace Moment

variable {before after : Moment} {run : RunObject} {ledger : Ledger} {stored status : RunStatus}

/-- A recorded identity is written again with every status. -/
theorem Writing.runId (writing : Writing run ledger stored status) {runId : String}
    (recorded : stored.runId = some runId) : status.runId = some runId := by
  cases writing with
  | reject time _ _ _ same | refresh outputs _ same =>
    rw [same] at recorded
    exact recorded
  | start time _ starts same =>
    obtain rfl := starts.identity runId (same ▸ recorded)
    rfl
  | finish _ _ underway _ _ ends =>
    obtain rfl := Option.some.inj (underway.runId.symm.trans recorded)
    cases ends <;> rfl

/-- A recorded preparation is written again with every status. -/
theorem Writing.upgradePrepareReadyId (writing : Writing run ledger stored status)
    {prepared : String} (recorded : stored.upgradePrepareReadyId = some prepared) :
    status.upgradePrepareReadyId = some prepared := by
  cases writing with
  | reject time _ _ _ same | refresh outputs _ same =>
    rw [same] at recorded
    exact recorded
  | start time _ starts same =>
    obtain rfl := RunObject.upgradePrepareReadyId_of_sound starts.sound (same ▸ recorded)
    rfl
  | finish _ _ underway _ _ ends =>
    obtain rfl := Option.some.inj (underway.upgradePrepareReadyId.symm.trans recorded)
    cases ends <;> rfl

/-- What identifies a run stays recorded. -/
structure Keeps (before after : RunStatus) : Prop where
  runId : ∀ runId, before.runId = some runId → after.runId = some runId
  upgradePrepareReadyId : ∀ prepared,
    before.upgradePrepareReadyId = some prepared → after.upgradePrepareReadyId = some prepared

/-- The identity is kept by every step. -/
theorem keeps_of_step (sound : Sound before) (step : Step before after) :
    Keeps before.recorded after.recorded := by
  rcases recorded_of_step sound step with same | records
  · rw [same]
    exact ⟨fun _ => id, fun _ => id⟩
  · cases records with
    | write reply working writing which laid =>
      simp only [recorded, laid, Option.getD_some]
      refine ⟨fun runId known => ?_, fun prepared known => ?_⟩
      · simp [RunStatus.laidOver, writing.runId known]
      · simp [RunStatus.laidOver, writing.upgradePrepareReadyId known]

/-- The identity is kept by however many steps. -/
theorem keeps_of_leads (sound : Sound before) (leads : Leads before after) :
    Keeps before.recorded after.recorded := by
  induction leads with
  | refl => exact ⟨fun _ => id, fun _ => id⟩
  | tail leads step inductionHypothesis =>
    have kept := keeps_of_step (sound_of_leads sound leads) step
    exact ⟨fun runId known => kept.runId runId (inductionHypothesis.runId runId known),
      fun prepared known => kept.upgradePrepareReadyId prepared
        (inductionHypothesis.upgradePrepareReadyId prepared known)⟩

/-- Whatever an execution says at the manager, it says while the run is recorded as running. -/
theorem Attended.underway {members : Json.Members} {past : History} {endpoint : Endpoint}
    {asked : Session.Question}
    {resume : Answer (.manager endpoint asked) → Reconcile (Except ReconcileError Action)}
    (attended : Attended members ⟨run, past, .ask (.manager endpoint asked) resume⟩)
    (executes : task run = .execute) :
    ∃ stored runId, RunObject.statusIn? members = some stored ∧ run.Underway runId stored := by
  obtain ⟨stored, read, stands⟩ := attended.stands
  have undertaking := attended.undertaking
  rw [executes] at undertaking
  cases undertaking with
  | quiet _ quiet => cases quiet
  | drive _ known _ _ | collect _ known _ _ _ =>
    rw [known] at stands
    exact ⟨stored, _, read, (stands rfl).underway⟩

/-- Where a run is not executed the manager is only asked what to read. -/
theorem Attended.reads {members : Json.Members} {past : History} {endpoint : Endpoint}
    {asked : Session.Question}
    {resume : Answer (.manager endpoint asked) → Reconcile (Except ReconcileError Action)}
    (attended : Attended members ⟨run, past, .ask (.manager endpoint asked) resume⟩)
    (rests : task run ≠ .execute) : Session.Reads asked := by
  have undertaking := attended.undertaking
  cases assigned : task run with
  | execute => exact absurd assigned rests
  | finalize =>
    rw [assigned] at undertaking
    rcases undertaking with ⟨_, quiet⟩
    cases quiet
  | refresh =>
    rw [assigned] at undertaking
    rcases undertaking with ⟨_, quiet⟩ | ⟨_, _, asks⟩
    · cases quiet
    · exact Outputs.reads_of_asks asks

/-- The reconcile of the run that is on its way is about to make a call that changes the plan or
starts something. -/
def Changing (moment : Moment) (run : RunObject) : Prop :=
  ∃ past endpoint call resume,
    moment.worker = some ⟨run, past, .ask (.manager endpoint (.call call)) resume⟩ ∧
      call.changes = true

/-- In every history of a stored run a recorded identity and a recorded preparation stay for good,
and whenever a call is made that changes the plan or starts something, the run is recorded as
running, with an identity and with the preparation of the spec that is executed. -/
theorem identity_kept (reachable : Reachable before) (leads : Leads before after) :
    (∀ runId, before.recorded.runId = some runId → after.recorded.runId = some runId) ∧
    (∀ prepared, before.recorded.upgradePrepareReadyId = some prepared →
      after.recorded.upgradePrepareReadyId = some prepared) ∧
    ∀ run, before.Changing run → before.recorded.phase = .running ∧
      (∃ runId, before.recorded.runId = some runId) ∧
      before.recorded.upgradePrepareReadyId = some run.spec.upgradePrepareReadyId := by
  have sound := sound_of_reachable reachable
  obtain ⟨keepsRunId, keepsPrepared⟩ := keeps_of_leads sound leads
  refine ⟨keepsRunId, keepsPrepared, ?_⟩
  rintro run ⟨past, endpoint, call, resume, working, changes⟩
  have attended := sound _ working
  have executes : task run = .execute := by
    by_cases executes : task run = .execute
    · exact executes
    · simp [(attended.reads executes).not_changes] at changes
  obtain ⟨stored, runId, read, underway⟩ := attended.underway executes
  obtain rfl : before.recorded = stored := by simp [recorded, read]
  exact ⟨underway.phase, ⟨runId, underway.runId⟩, underway.upgradePrepareReadyId⟩

-- A reconcile is known by what it obeys; to compute it would be to compute on texts.
attribute [local irreducible] reconcile

/-- What a reconcile is answered where nothing has been upgraded yet. -/
def answerUntouched : (asked : Question) → Answer asked
  | .manager _ (.call (.getStatus _)) =>
    .ok (Summary.mk .notStarted
      (Component.ordered.map fun component => ⟨component.wire, .notStarted, none, none⟩))
  | asked => answerReconcile asked

/-- Whether the next question is a call that changes the plan or starts something. -/
def changesNext : Reconcile (Except ReconcileError Action) → Bool
  | .ask (.manager _ (.call call)) _ => call.changes
  | _ => false

/-- A worker that is about to ask for a change is changing. -/
theorem changing_of_changesNext {members : Json.Members} {past : History}
    {rest : Reconcile (Except ReconcileError Action)} (next : changesNext rest = true) :
    Changing ⟨members, some ⟨run, past, rest⟩⟩ run := by
  unfold changesNext at next
  split at next
  · exact ⟨past, _, _, _, rfl, next⟩
  · cases next

/-- The reconcile of a plain run that is about to change the plan for the first time. -/
def plainChanging : Moment :=
  let steered := (reconcile (.plain "http://nsx.test") {}).run.steer answerUntouched 14
  ⟨steered.1.foldl serve RunObject.plainMembers,
    some ⟨.plain "http://nsx.test", steered.1, steered.2⟩⟩

/-- The plain run is changed under its recorded identity, which it keeps. -/
theorem identity_kept_plain :
    ∃ after runId, Reachable plainChanging ∧ plainChanging.Changing (.plain "http://nsx.test") ∧
      Leads plainChanging after ∧ after.worker = none ∧
      plainChanging.recorded.phase = .running ∧
      plainChanging.recorded.upgradePrepareReadyId = some "ready" ∧
      after.recorded.runId = some runId := by
  have next : changesNext (((reconcile (.plain "http://nsx.test") {}).run.steer
      answerUntouched 14).2) = true := by
    decide +kernel
  have reachable : Reachable plainChanging :=
    reachable_of_reaches RunObject.ofJson?_plainMembers (reaches_steer answerUntouched 14 _)
  have changing : plainChanging.Changing (.plain "http://nsx.test") := changing_of_changesNext next
  have leads : Leads plainChanging { plainChanging with worker := none } := .single .leave
  obtain ⟨keeps, -, identified⟩ := identity_kept reachable leads
  obtain ⟨running, ⟨runId, known⟩, prepared⟩ := identified _ changing
  exact ⟨_, runId, reachable, changing, leads, rfl, running, prepared, keeps runId known⟩

end Moment

end Reconcile

end FabricUpgrade
