import FabricUpgrade.Proofs.Execution
import FabricUpgrade.Proofs.Reconciling

/-!
# From what was seen to what is stored

The report of an execution says of each component what was last seen of it.  The phase that a
reconcile stores at the end is read off that report, so it can be traced back to what was seen.
-/

namespace FabricUpgrade

open Program Session

/-- What the report of an execution says holds of what was said at the manager. -/
structure Report.Truthful (run : Run) (past : History) (report : Report) : Prop where
  /-- Each component comes up once, in order. -/
  components : report.components.map ComponentReport.component = [.edge, .host, .management]
  truthful : ∀ entry ∈ report.components, entry.Truthful run past

/-- Where no component is upgraded in part, none is skipped. -/
theorem ComponentReport.Skips.not_skipped {reports : List ComponentReport}
    (skips : Skips false reports)
    (whole : ∀ report ∈ reports, report.outcome ≠ .partiallyCompleted) :
    ∀ report ∈ reports, report.outcome ≠ .skipped := by
  induction reports with
  | nil => simp
  | cons first rest inductionHypothesis =>
    obtain ⟨skipped, skips⟩ := skips
    have firstWhole : first.outcome ≠ .partiallyCompleted := whole first (by simp)
    simp only [firstWhole, decide_false, Bool.or_false] at skips
    intro report member
    rcases List.mem_cons.1 member with rfl | later
    · exact fun isSkipped => absurd (skipped.1 isSkipped).2 (by decide)
    · exact inductionHypothesis skips (fun entry listed => whole entry (by simp [listed]))
        report later

namespace Run.Reported

variable {run : Run} {past : History} {reports : List ComponentReport}

/-- The management plane is skipped exactly if the edge nodes or the hosts were upgraded in part. -/
theorem skipped_iff {report : Report}
    (reported : run.Reported Component.ordered false past report.components) :
    report.outcome? .management = some .skipped ↔ report.isPartial = true := by
  obtain ⟨reports, postChecks⟩ := report
  obtain ⟨components, truthful, skips⟩ := reported
  obtain ⟨edge, rest, rfl, isEdge, components⟩ := List.map_eq_cons_iff.1 components
  obtain ⟨host, rest, rfl, isHost, components⟩ := List.map_eq_cons_iff.1 components
  obtain ⟨management, rest, rfl, isManagement, components⟩ := List.map_eq_cons_iff.1 components
  obtain rfl := List.map_eq_nil_iff.1 components
  have whole : management.outcome ≠ .partiallyCompleted := fun partly => by
    have launched := ((truthful management (by simp)).launched.1 partly).2
    rw [isManagement] at launched
    cases launched
  obtain ⟨-, -, skipped, -⟩ := skips
  simp [Report.outcome?, Report.isPartial, isEdge, isHost, isManagement, whole] at skipped ⊢
  exact skipped

/-- If no component was upgraded in part, each of them was last seen upgraded. -/
theorem succeeded {report : Report}
    (reported : run.Reported Component.ordered false past report.components)
    (whole : report.isPartial = false) (component : Component) :
    ∃ observed since, LatestProbe (some component) past observed since ∧
      observed.status = .success := by
  have listed : component ∈ report.components.map ComponentReport.component := by
    rw [reported.components]
    cases component <;> decide
  obtain ⟨entry, member, rfl⟩ := List.mem_map.1 listed
  have truthful := reported.truthful entry member
  have notPartly : ∀ entry ∈ report.components, entry.outcome ≠ .partiallyCompleted := by
    simpa [Report.isPartial] using whole
  have success : ∃ observed, entry.final = some observed ∧ observed.status = .success := by
    apply truthful.succeeded
    have notSkipped := reported.skips.not_skipped notPartly entry member
    have notPartly := notPartly entry member
    cases outcome : entry.outcome with
    | alreadySucceeded => exact .inl rfl
    | completed => exact .inr rfl
    | partiallyCompleted => exact absurd outcome notPartly
    | skipped => exact absurd outcome notSkipped
  obtain ⟨observed, final, success⟩ := success
  obtain ⟨since, latest⟩ := truthful.seen observed final
  exact ⟨observed, since, latest, success⟩

end Run.Reported

namespace Reconcile

variable {run : RunObject} {ledger : Ledger}

/-- The upgrade was driven to its end in a reconcile: what was said then, and the result. -/
def Drove (run : RunObject) (ledger : Ledger) (driven : Session.History)
    (result : Except Failure Report) : Prop :=
  Converses run.driver driven result ∧ ∃ later, ledger.managed = driven ++ later

/-- A reconcile drives the upgrade to its end once. -/
theorem Drove.unique {first second : Session.History} {left right : Except Failure Report}
    (drove : Drove run ledger first left) (also : Drove run ledger second right) :
    first = second ∧ left = right := by
  obtain ⟨converses, later, managed⟩ := drove
  obtain ⟨conversesToo, afterwards, same⟩ := also
  exact converses.unique conversesToo (managed.symm.trans same)

/-- Nothing was driven where nothing was said. -/
theorem Drove.said {driven : Session.History} {result : Except Failure Report}
    (drove : Drove run ledger driven result) : ledger.managed ≠ [] := by
  obtain ⟨converses, later, managed⟩ := drove
  obtain ⟨resume, asks⟩ : ∃ resume, run.driver = .ask .stopRequested resume := ⟨_, rfl⟩
  rw [asks] at converses
  cases converses with
  | ask reply rest => simp [managed]

/-- What the phase that a reconcile stores last says of the upgrade. -/
structure RecordsOutcome (run : RunObject) (ledger : Ledger) : Prop where
  completed : ledger.lastPhase? = some .completed → ∃ driven report,
    Drove run ledger driven (.ok report) ∧ ∀ component, ∃ observed since,
      LatestProbe (some component) driven observed since ∧ observed.status = .success
  partiallyCompleted : ledger.lastPhase? = some .partiallyCompleted ↔ ∃ driven report,
    Drove run ledger driven (.ok report) ∧ report.outcome? .management = some .skipped
  failed : ledger.lastPhase? = some .failed ↔ run.fault?.isSome = true ∨
    ∃ driven failure, Drove run ledger driven (.error failure) ∧ failure.isCancelled = false

/-- Where nothing was said and the spec was not rejected, nothing is recorded as ended. -/
theorem recordsOutcome_of_quiet (sound : run.fault? = none) (idle : ledger.managed = [])
    (phase : ledger.lastPhase? = none) : RecordsOutcome run ledger where
  completed ended := by simp [phase] at ended
  partiallyCompleted := by
    constructor
    · simp [phase]
    · rintro ⟨_, _, drove, -⟩
      exact absurd idle drove.said
  failed := by
    constructor
    · simp [phase]
    · rintro (faulty | ⟨_, _, drove, -⟩)
      · simp [sound] at faulty
      · exact absurd idle drove.said

/-- A rejected run records its outcome. -/
theorem recordsOutcome_of_rejected (faulty : run.fault?.isSome = true) (idle : ledger.managed = [])
    (phase : ledger.lastPhase? = some .failed) : RecordsOutcome run ledger where
  completed ended := by simp [phase] at ended
  partiallyCompleted := by
    constructor
    · simp [phase]
    · rintro ⟨_, _, drove, -⟩
      exact absurd idle drove.said
  failed := ⟨fun _ => .inl faulty, fun _ => phase⟩

/-- A stopped upgrade leaves the run running. -/
theorem recordsOutcome_of_cancelled {driven : Session.History} {component : Option Component}
    (sound : run.fault? = none) (drove : Drove run ledger driven (.error (.cancelled component)))
    (phase : ledger.lastPhase? = some .running) : RecordsOutcome run ledger where
  completed ended := by simp [phase] at ended
  partiallyCompleted := by
    constructor
    · simp [phase]
    · rintro ⟨_, _, also, -⟩
      cases (drove.unique also).2
  failed := by
    constructor
    · simp [phase]
    · rintro (faulty | ⟨_, _, also, uncancelled⟩)
      · simp [sound] at faulty
      · cases (drove.unique also).2
        cases uncancelled

/-- The phase in which an execution ends says how it ended. -/
theorem recordsOutcome_of_ended {driven : Session.History} {result : Except Failure Report}
    (sound : run.fault? = none) (drove : Drove run ledger driven result)
    (uncancelled : ∀ component, result ≠ .error (.cancelled component))
    (phase : ledger.lastPhase? = some (.ofEnd result)) : RecordsOutcome run ledger := by
  cases result with
  | error failure =>
    have lasting : failure.isCancelled = false := by
      cases failure with
      | cancelled component => exact absurd rfl (uncancelled component)
      | call _ _ _ _ | waitTimeout _ _ _ _ | unexpectedStatus _ _ _ | statusNotFound _ => rfl
    have failed : ledger.lastPhase? = some .failed := phase
    refine ⟨by simp [failed], ⟨by simp [failed], ?_⟩,
      ⟨fun _ => .inr ⟨driven, failure, drove, lasting⟩, fun _ => failed⟩⟩
    rintro ⟨_, _, also, -⟩
    cases (drove.unique also).2
  | ok report =>
    have reported : run.spec.toRun.Reported Component.ordered false driven report.components :=
      (Run.execute_obeys run.spec.toRun).concludes drove.1
    have unfailed : ¬ ∃ driven failure, Drove run ledger driven (.error failure) ∧
        failure.isCancelled = false := by
      rintro ⟨_, _, also, -⟩
      cases (drove.unique also).2
    by_cases partly : report.isPartial = true
    · have partially : ledger.lastPhase? = some .partiallyCompleted := by
        simpa [Phase.ofEnd, partly] using phase
      refine ⟨by simp [partially], ⟨fun _ => ?_, fun _ => partially⟩, ?_⟩
      · exact ⟨driven, report, drove, reported.skipped_iff.2 partly⟩
      · simp [partially, sound, unfailed]
    · have completed : ledger.lastPhase? = some .completed := by
        simpa [Phase.ofEnd, partly] using phase
      refine ⟨fun _ => ?_, ⟨by simp [completed], ?_⟩, ?_⟩
      · exact ⟨driven, report, drove, reported.succeeded (by simpa using partly)⟩
      · rintro ⟨_, other, also, skipped⟩
        obtain ⟨-, same⟩ := drove.unique also
        cases same
        exact absurd (reported.skipped_iff.1 skipped) partly
      · simp [completed, sound, unfailed]

/-- Where every status was written, the last one tells how the upgrade ended. -/
theorem Ending.recordsOutcome (ending : Ending run ledger) (canWrite : CanWrite run)
    (kept : ledger.lost = false) : RecordsOutcome run ledger := by
  cases ending with
  | spoilt unwritten =>
    rcases unwritten with lost | cannot
    · simp [kept] at lost
    · exact absurd canWrite cannot
  | rejected faulty phase idle => exact recordsOutcome_of_rejected faulty idle phase
  | unstarted sound unwritten idle =>
    exact recordsOutcome_of_quiet sound idle (by simp [Ledger.lastPhase?, unwritten])
  | cancelled sound phase driven =>
    exact recordsOutcome_of_cancelled sound ⟨driven, [], by simp⟩ phase
  | ended sound managed ends uncancelled phase =>
    exact recordsOutcome_of_ended sound ⟨ends, _, managed⟩ uncancelled phase

/-- Whatever is answered, a report says of each component what was last seen of it, and where every
status is written, the phase that is stored last tells how the upgrade ended. -/
theorem outcome_truthful :
    (∀ (run : Run) (past : Session.History) (report : Report),
      Converses (run.execute {}).run past (.ok report) → report.Truthful run past) ∧
    ∀ (run : RunObject) (exchanges : History) (result : Except ReconcileError Action),
      Converses (execute run {}).run exchanges result → CanWrite run →
      (Ledger.ofHistory exchanges).lost = false →
      RecordsOutcome run (Ledger.ofHistory exchanges) := by
  constructor
  · intro run past report converses
    have reported : run.Reported Component.ordered false past report.components :=
      (Run.execute_obeys run).concludes converses
    exact ⟨reported.components, reported.truthful⟩
  · intro run exchanges result converses canWrite kept
    have executed : Executed run (Ledger.ofHistory exchanges) result :=
      (execute_obeys Ledger.ofHistory_nil).concludes converses
    exact executed.ending.recordsOutcome canWrite kept

/-- What an upgrade is answered on a fabric that has been upgraded. -/
def answerUpgraded : (asked : Session.Question) → Session.Answer asked
  | .call (.getStatus _) =>
    .ok (Summary.mk .success
      (Component.ordered.map fun component => ⟨component.wire, .success, none, none⟩))
  | .call _ => .error (.timeout "slow")
  | .now => (0 : Nat)
  | .sleep _ => true
  | .stopRequested => false

/-- A small run. -/
def smallRun : RunObject where
  metadata := { name := some "upgrade" }
  spec := {
    upgradePrepareReadyId := "ready"
    manager := { url := "http://nsx.test", credentials := { name := "admin" } } }

/-- The same as it is stored. -/
def smallRunStored : Json :=
  .object [("metadata", .object [("name", .string "upgrade")]),
    ("spec", .object [("upgradePrepareReadyId", .string "ready"),
      ("manager", .object [("url", .string "http://nsx.test"),
        ("credentialsSecret", .object [("name", .string "admin")])])])]

/-- What a reconcile is answered where the fabric has been upgraded. -/
def answerReconcile : (asked : Question) → Answer asked
  | .store (.getSecret _ _) =>
    .ok (.object [("data", .object [("username", .string "YQ=="), ("password", .string "YQ==")])])
  | .store _ => .ok smallRunStored
  | .manager _ asked => answerUpgraded asked
  | .claim _ => true
  | .release _ => ()
  | .buildClient _ => .ok ()
  | .newRunId => "id"
  | .timestamp => "time"
  | .clock => (0 : Nat)
  | .measure _ => ()
  | .forgetFailures _ => ()

/-- The small run is upgraded, reports so truthfully and is recorded as completed. -/
theorem outcome_truthful_smallRun :
    (∃ report, (smallRun.driver.play answerUpgraded).2 = .ok report ∧
      report.Truthful smallRun.spec.toRun (smallRun.driver.play answerUpgraded).1) ∧
    (Ledger.ofHistory ((execute smallRun {}).run.play answerReconcile).1).lastPhase? =
      some .completed ∧
    RecordsOutcome smallRun
      (Ledger.ofHistory ((execute smallRun {}).run.play answerReconcile).1) := by
  have written :
      (Ledger.ofHistory ((execute smallRun {}).run.play answerReconcile).1).lost = false ∧
      (Ledger.ofHistory ((execute smallRun {}).run.play answerReconcile).1).lastPhase? =
        some .completed := by
    decide +kernel
  have sendable :
      (StoreRequest.writeStatus (space smallRun) (name smallRun) {}).isSendable = true := by
    decide +kernel
  have driven := converses_play answerUpgraded smallRun.driver
  refine ⟨⟨_, rfl, outcome_truthful.1 _ _ _ driven⟩, written.2, ?_⟩
  exact outcome_truthful.2 _ _ _ (converses_play answerReconcile _) (fun _ => sendable) written.1

end Reconcile

end FabricUpgrade
