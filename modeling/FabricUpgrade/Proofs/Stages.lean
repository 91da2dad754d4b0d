import FabricUpgrade.Proofs.Ledger

/-!
# The stages of a reconcile

The stages that leave a trace in the ledger are writing a status and talking to the manager.  Each
has one lemma that says what it enters.  `RunObject.Writes` lists the statuses that a reconcile may
write, each made from what is recorded.
-/

namespace FabricUpgrade

open Program

/-- The phase in which an execution ends. -/
def Phase.ofEnd : Except Failure Report → Phase
  | .error _ => .failed
  | .ok report => if report.isPartial then .partiallyCompleted else .completed

/-- A manager can make the operator collect these outputs. -/
def Outputs.Collected (outputs : Outputs) : Prop :=
  ∃ exchanges, Converses Outputs.collect.run exchanges (.ok outputs)

/-- The session in which a reconcile drives the upgrade of a run. -/
abbrev RunObject.driver (run : RunObject) : Session (Except Failure Report) :=
  (run.spec.toRun.execute {}).run

namespace RunObject

variable (run : RunObject)

/-- The status of a run whose spec was rejected. -/
def rejectedStatus (fault : SpecFault) (time : String) : RunStatus :=
  { run.recorded with
    phase := .failed
    errorMessage := some fault.error.message
    observedGeneration := run.metadata.generation
    conditions :=
      Conditions.ofPhase time .failed (some fault.error.message) run.metadata.generation }

/-- The status of a run that is being executed. -/
def runningStatus (runId time : String) : RunStatus :=
  { run.recorded with
    phase := .running
    runId := some runId
    upgradePrepareReadyId := some run.spec.upgradePrepareReadyId
    errorMessage := none
    conditions := Conditions.ofPhase time .running none run.metadata.generation }

/-- The status of a run whose execution has ended, but for its outputs. -/
def endedStatus (running : RunStatus) (result : Except Failure Report) (time : String) :
    RunStatus :=
  let errorMessage := match result with
    | .ok _ => none
    | .error failure => some failure.message
  { running with
    phase := .ofEnd result
    errorMessage
    observedGeneration := run.metadata.generation
    lastRunAt := some time
    conditions := Conditions.ofPhase time (.ofEnd result) errorMessage run.metadata.generation }

/-- The statuses that a reconcile of the run may write. -/
inductive Writes : RunStatus → Prop where
  | rejected (fault : SpecFault) (time : String) : Writes (run.rejectedStatus fault time)
  | running (runId time : String) : Writes (run.runningStatus runId time)
  | ended (runId started time : String) (result : Except Failure Report) :
      Writes (run.endedStatus (run.runningStatus runId started) result time)
  | endedWith (runId started time : String) (result : Except Failure Report) {outputs : Outputs}
      (collected : outputs.Collected) :
      Writes ((run.endedStatus (run.runningStatus runId started) result time).withOutputs outputs)
  | refreshed {outputs : Outputs} (collected : outputs.Collected) :
      Writes (run.recorded.withOutputs outputs)

end RunObject

namespace Reconcile

variable {run : RunObject} {rule : Rule Question Answer} {past : History}

/-- The status of the run can be written as far as the request goes. -/
def CanWrite (run : RunObject) : Prop :=
  ∀ status, (StoreRequest.writeStatus (space run) (name run) status).isSendable = true

section Phases

/-- From every phase an upgrade can be started. -/
theorem nextPhase_starting (phase : Phase) :
    nextPhase phase (.starting phase) 0 = pure .running := by
  cases phase <;> rfl

/-- From every phase the spec can be rejected. -/
theorem nextPhase_validationFailed (phase : Phase) :
    nextPhase phase .validationFailed 0 = pure .failed := by
  cases phase <;> rfl

/-- A running upgrade can end in part. -/
theorem nextPhase_partialUpgrade (others : Nat) :
    nextPhase .running .partialUpgrade (others + 1) = pure .partiallyCompleted :=
  rfl

/-- The number of the components that were upgraded in part opens the way that the report takes. -/
theorem nextPhase_ending {result : Except Failure Report} {count : Nat}
    (counted : ∀ report, result = .ok report → count = report.partialComponents.length) :
    nextPhase .running (.ending result) count = pure (Phase.ofEnd result) := by
  cases result with
  | error failure => rfl
  | ok report =>
    have several : report.isPartial = true ↔ 0 < count := by
      simp [counted report rfl, Report.isPartial, Report.partialComponents, List.length_pos_iff]
    by_cases partly : report.isPartial = true
    · obtain ⟨others, rfl⟩ := Nat.exists_eq_add_one.2 (several.1 partly)
      simp only [RunEvent.ending, Phase.ofEnd, partly, if_true]
      exact nextPhase_partialUpgrade others
    · have none : count = 0 := by
        have bound := mt several.2 partly
        omega
      simp only [RunEvent.ending, Phase.ofEnd, partly, none]
      rfl

end Phases

section Ledger

variable {ledger : Ledger} {First Value : Type}

/-- A quiet stage in front of the stages after it. -/
theorem obeys_quiet_bind {first : Reconciling First} {next : First → Reconciling Value}
    {ends : History → Except ReconcileError Value → Prop} (known : Ledger.ofHistory past = ledger)
    (quiet : Quiet first.run)
    (permits : ∀ past question, Ledger.ofHistory past = ledger → question.isQuiet = true →
      rule past question)
    (continues : ∀ past value, Ledger.ofHistory past = ledger →
      (next value).run.Obeys rule ends past)
    (fails : ∀ past error, Ledger.ofHistory past = ledger → ends past (.error error)) :
    (first >>= next).run.Obeys rule ends past :=
  obeys_bind_keeping (fun past => Ledger.ofHistory past = ledger)
    ((quiet.obeys ledger known).mono
      (fun past question permitted => permits past question permitted.1 permitted.2)
      fun _ _ ended => ended)
    continues fails

/-- A quiet stage that cannot fail. -/
theorem obeys_quiet_lift {program : Reconcile Value}
    {ends : History → Except ReconcileError Value → Prop} (known : Ledger.ofHistory past = ledger)
    (quiet : Quiet program)
    (permits : ∀ past question, Ledger.ofHistory past = ledger → question.isQuiet = true →
      rule past question)
    (concludes : ∀ past value, Ledger.ofHistory past = ledger → ends past (.ok value)) :
    (liftM program : Reconciling Value).run.Obeys rule ends past :=
  obeys_lift ((quiet.obeys ledger known).mono
    (fun past question permitted => permits past question permitted.1 permitted.2) concludes)

/-- A quiet stage that cannot fail in front of the stages after it. -/
theorem obeys_quiet_lift_bind {first : Reconcile First} {next : First → Reconciling Value}
    {ends : History → Except ReconcileError Value → Prop} (known : Ledger.ofHistory past = ledger)
    (quiet : Quiet first)
    (permits : ∀ past question, Ledger.ofHistory past = ledger → question.isQuiet = true →
      rule past question)
    (continues : ∀ past value, Ledger.ofHistory past = ledger →
      (next value).run.Obeys rule ends past) :
    (liftM first >>= next).run.Obeys rule ends past := by
  have first : (liftM first : Reconciling First).run.Obeys rule (fun past outcome =>
      ∃ value, outcome = .ok value ∧ Ledger.ofHistory past = ledger) past :=
    obeys_quiet_lift known quiet permits fun past value known => ⟨value, rfl, known⟩
  refine obeys_bind first ?_ ?_
  · rintro past value ⟨_, -, known⟩
    exact continues past value known
  · rintro past error ⟨_, impossible, -⟩
    cases impossible

/-- How writing a status ended, and what it entered in the ledger. -/
inductive WriteEnded (run : RunObject) (status : RunStatus) (before after : Ledger) :
    Except ReconcileError Unit → Prop where
  | written (entered : after = { before with written := before.written ++ [status] })
      (canWrite : CanWrite run) : WriteEnded run status before after (.ok ())
  | lost (error : ReconcileError)
      (entered : after = { before with written := before.written ++ [status], lost := true }) :
      WriteEnded run status before after (.error error)
  | unsent (error : ReconcileError) (same : after = before) (refused : ¬ CanWrite run) :
      WriteEnded run status before after (.error error)

/-- Writing a status says nothing at the manager. -/
theorem WriteEnded.managed_eq {status : RunStatus} {before after : Ledger}
    {outcome : Except ReconcileError Unit} (ended : WriteEnded run status before after outcome) :
    after.managed = before.managed := by
  cases ended with
  | written entered => rw [entered]
  | lost _ entered => rw [entered]
  | unsent _ same _ => rw [same]

/-- Writing a status does not touch the claim. -/
theorem WriteEnded.keeps {status : RunStatus} {before after : Ledger}
    {outcome : Except ReconcileError Unit} (ended : WriteEnded run status before after outcome) :
    after.claim = before.claim ∧ after.refused = before.refused := by
  cases ended with
  | written entered => exact ⟨by rw [entered], by rw [entered]⟩
  | lost _ entered => exact ⟨by rw [entered], by rw [entered]⟩
  | unsent _ same _ => exact ⟨by rw [same], by rw [same]⟩

/-- What is made of an answer of the store. -/
def readAnswer (decode : Json → Option Value) : Except StoreError Json → Except ReconcileError Value
  | .error error => .error (.store error)
  | .ok value => (decode value).elim (.error (.store .malformed)) .ok

/-- A request that can be sent is asked, and its answer is read. -/
theorem fromStore_run {decode : Json → Option Value} {request : StoreRequest}
    (sendable : request.isSendable = true) :
    (fromStore decode request).run =
      .ask (.store request) fun answer => .done (readAnswer decode answer) := by
  unfold fromStore askStore
  simp only [sendable]
  refine congrArg (Program.ask _) (funext fun answer => ?_)
  cases answer with
  | error error => rfl
  | ok value =>
    change ExceptT.bindCont _ (Except.ok (Except.ok value)) = _
    simp only [ExceptT.bindCont, readAnswer]
    cases decode value with
    | none => rfl
    | some _ => rfl

/-- A request that cannot be sent fails as malformed. -/
theorem fromStore_run_of_not_sendable {decode : Json → Option Value} {request : StoreRequest}
    (unsendable : ¬ request.isSendable = true) :
    (fromStore decode request).run = .done (.error (.store .malformed)) := by
  unfold fromStore askStore
  simp only [unsendable]
  rfl

/-- A write obeys a rule that permits it, and enters the status in the ledger unless it cannot be
sent. -/
theorem writeStatus_obeys {status : RunStatus}
    (permitted : rule past (.store (.writeStatus (space run) (name run) status))) :
    (writeStatus run status).run.Obeys rule
      (fun after outcome =>
        WriteEnded run status (Ledger.ofHistory past) (Ledger.ofHistory after) outcome) past := by
  refine obeys_andThen.2 ?_
  by_cases sendable :
      (StoreRequest.writeStatus (space run) (name run) status).isSendable = true
  · change (fromStore _ _).run.Obeys _ _ _
    rw [fromStore_run sendable]
    refine ⟨permitted, fun answer => ?_⟩
    cases answer with
    | error error => exact .lost _ (by simp [Ledger.enter, isWritten])
    | ok value =>
      simp only [readAnswer]
      cases read : RunObject.ofJson? value with
      | none => exact .lost _ (by simp [Ledger.enter, isWritten, read])
      | some _ =>
        -- Whether a status can be sent does not depend on the status.
        exact .written (by simp [Ledger.enter, isWritten, read]) fun _ => sendable
  · change (fromStore _ _).run.Obeys _ _ _
    rw [fromStore_run_of_not_sendable sendable]
    exact .unsent _ rfl fun canWrite => sendable (canWrite status)

/-- A patch of the run is entered nowhere. -/
theorem patchRun_obeys {patch : Json}
    (permitted : rule past (.store (.patchRun (space run) (name run) patch))) :
    (fromStore RunObject.ofJson? (.patchRun (space run) (name run) patch)).run.Obeys rule
      (fun after _ => Ledger.ofHistory after = Ledger.ofHistory past) past := by
  by_cases sendable : (StoreRequest.patchRun (space run) (name run) patch).isSendable = true
  · rw [fromStore_run sendable]
    exact ⟨permitted, fun answer => by simp [Ledger.enter]⟩
  · rw [fromStore_run_of_not_sendable sendable]
    rfl

/-- What is said at a manager is a conversation of the session, and is entered as such. -/
theorem obeys_atManager {endpoint : Endpoint} {session : Session Value}
    {ends : History → Value → Prop}
    (permits : ∀ after driven asked, Asks session driven asked →
      Ledger.ofHistory after =
        { Ledger.ofHistory past with managed := (Ledger.ofHistory past).managed ++ driven } →
      rule after (.manager endpoint asked))
    (concludes : ∀ after driven result, Converses session driven result →
      Ledger.ofHistory after =
        { Ledger.ofHistory past with managed := (Ledger.ofHistory past).managed ++ driven } →
      ends after result) : (atManager endpoint session).Obeys rule ends past := by
  induction session generalizing past with
  | done result => exact concludes past [] result (.done result) (by simp)
  | ask asked resume inductionHypothesis =>
    refine ⟨permits past [] asked ⟨resume, .here _⟩ (by simp),
      fun (reply : Session.Answer asked) => ?_⟩
    refine inductionHypothesis reply (fun after driven later asks entered => ?_)
      fun after driven result ended entered => ?_
    · obtain ⟨next, begun⟩ := asks
      refine permits after (⟨asked, reply⟩ :: driven) later ⟨next, .ask reply begun⟩ ?_
      simpa [Ledger.enter] using entered
    · refine concludes after (⟨asked, reply⟩ :: driven) result (.ask reply ended) ?_
      simpa [Ledger.enter] using entered

end Ledger

end Reconcile

end FabricUpgrade
