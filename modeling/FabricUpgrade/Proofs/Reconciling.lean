import FabricUpgrade.Proofs.Lawful

/-!
# Following a reconcile

Whatever it is answered, each part of a reconcile keeps to the rule of its task, and each leaves the
ledger in a state that is known.  The parts are followed in the order in which they are defined, up
to the whole.
-/

namespace FabricUpgrade

open Program

namespace Reconcile

variable {run : RunObject} {past : History} {ledger : Ledger}

-- Whether a request can be sent is a computation on texts that no proof here has to look into.
attribute [local irreducible] askStore

/-- A status was not written, and nothing else has changed but what was written. -/
structure Spoilt (run : RunObject) (before after : Ledger) : Prop where
  unwritten : after.lost = true ∨ ¬ CanWrite run
  claim : after.claim = before.claim
  refused : after.refused = before.refused
  managed : after.managed = before.managed

/-- A write that failed has spoilt the reconcile. -/
theorem WriteEnded.spoilt {status : RunStatus} {before after : Ledger} {error : ReconcileError}
    (ended : WriteEnded run status before after (.error error)) : Spoilt run before after := by
  obtain ⟨claim, refused⟩ := ended.keeps
  have managed := ended.managed_eq
  cases ended with
  | lost _ entered => exact ⟨.inl (by rw [entered]), claim, refused, managed⟩
  | unsent _ _ cannot => exact ⟨.inr cannot, claim, refused, managed⟩

/-- What is known when the part of a reconcile that may write is over. -/
structure Over (run : RunObject) (claim : Option String) (ledger : Ledger) : Prop where
  claim : ledger.claim = claim
  unrefused : ledger.refused = false
  ending : Ending run ledger

/-- A reconcile that is spoilt after a claim that was not refused is over. -/
theorem Spoilt.finished {before after : Ledger} (spoilt : Spoilt run before after)
    (unrefused : before.refused = false) : Over run before.claim after :=
  ⟨spoilt.claim, spoilt.refused.trans unrefused, .spoilt spoilt.unwritten⟩

/-- Quiet questions may be asked in an execution for as long as no claim was refused. -/
theorem executing_of_known (unrefused : ledger.refused = false) (past : History)
    (question : Question) (known : Ledger.ofHistory past = ledger)
    (quiet : question.isQuiet = true) : Executing run past question :=
  .quiet (known ▸ unrefused) quiet

/-- Quiet questions may be asked in a refresh for as long as no claim was refused. -/
theorem refreshing_of_known (unrefused : ledger.refused = false) (past : History)
    (question : Question) (known : Ledger.ofHistory past = ledger)
    (quiet : question.isQuiet = true) : Refreshing run past question :=
  .quiet (known ▸ unrefused) quiet

/-- Quiet questions may be asked for the finalizers for as long as nothing was done. -/
theorem finalizing_of_known (past : History) (question : Question)
    (known : Ledger.ofHistory past = {}) (quiet : question.isQuiet = true) :
    Finalizing run past question :=
  .quiet known quiet

/-- A rejection keeps to the rule of an execution and is balanced. -/
theorem reject_obeys {fault : SpecFault} (faulty : run.fault? = some fault)
    (known : Ledger.ofHistory past = {}) :
    (reject run fault).run.Obeys (Executing run)
      (fun after _ => Over run none (Ledger.ofHistory after) ∧
        Balanced run (Ledger.ofHistory after)) past := by
  unfold reject
  simp only [nextPhase_validationFailed]
  refine obeys_quiet_lift_bind known (quiet_question rfl) (executing_of_known rfl)
    fun past time known => ?_
  refine obeys_bind (writeStatus_obeys (.reject time known faulty))
    (fun past _ ended => ?_) fun past _ ended => ?_
  · have finished : Over run none (Ledger.ofHistory past) ∧
        Balanced run (Ledger.ofHistory past) := by
      rw [known] at ended
      cases ended with
      | written entered =>
        rw [entered]
        exact ⟨⟨rfl, rfl, .rejected (by rw [faulty]; rfl) rfl rfl⟩, .unstarted rfl⟩
    refine obeys_quiet_lift_bind rfl quiet_publish (executing_of_known finished.1.unrefused)
      fun past _ known => ?_
    change Over run none (Ledger.ofHistory past) ∧ Balanced run (Ledger.ofHistory past)
    rw [known]
    exact finished
  · rw [known] at ended
    exact ⟨ended.spoilt.finished rfl, .unstarted ended.spoilt.managed⟩

/-- How recording the start ended, and what it entered in the ledger. -/
inductive StartEnded (run : RunObject) (after : Ledger) :
    Except ReconcileError RunStatus → Prop where
  | running {runId : String} (time : String) (starts : run.Starts runId)
      (entered : after = .underway run runId time []) (canWrite : CanWrite run) :
      StartEnded run after (.ok (run.runningStatus runId time))
  | spoilt (error : ReconcileError)
      (spoilt : Spoilt run { claim := some run.spec.manager.url } after) :
      StartEnded run after (.error error)

/-- Recording the start keeps to the rule of an execution and enters the start, unless it is spoilt. -/
theorem recordStart_obeys (sound : run.fault? = none)
    (known : Ledger.ofHistory past = { claim := some run.spec.manager.url }) :
    (recordStart run).run.Obeys (Executing run)
      (fun after outcome => StartEnded run (Ledger.ofHistory after) outcome) past := by
  have identified : ∀ past runId, run.Starts runId →
      Ledger.ofHistory past = { claim := some run.spec.manager.url } →
      (do
        let time ← timestamp
        let running := run.runningStatus runId time
        writeStatus run running
        return running : Reconciling RunStatus).run.Obeys (Executing run)
      (fun after outcome => StartEnded run (Ledger.ofHistory after) outcome) past := by
    intro past runId starts known
    refine obeys_quiet_lift_bind known (quiet_question rfl) (executing_of_known rfl)
      fun past time known => ?_
    refine obeys_bind (writeStatus_obeys (.start time known starts)) (fun past _ ended => ?_)
      fun past error ended => ?_
    · rw [known] at ended
      cases ended with
      | written entered canWrite => exact .running time starts entered canWrite
    · rw [known] at ended
      exact .spoilt error ended.spoilt
  unfold recordStart
  simp only [nextPhase_starting]
  cases recorded : run.recorded.runId with
  | some runId =>
    have own (other : String) (same : run.recorded.runId = some other) : other = runId :=
      Option.some.inj (same.symm.trans recorded)
    exact identified past runId ⟨sound, own⟩ known
  | none =>
    exact obeys_quiet_lift_bind known (quiet_question rfl) (executing_of_known rfl)
      fun past runId known => identified past runId ⟨sound, fun _ same => by simp [recorded] at same⟩
        known

/-- What is said at the manager is entered as a conversation of the session. -/
theorem atManager_obeys {Value : Type} {endpoint : Endpoint} {session : Session Value}
    {rule : Rule Question Answer} (known : Ledger.ofHistory past = ledger)
    (permits : ∀ past said asked, Asks session said asked →
      Ledger.ofHistory past = { ledger with managed := ledger.managed ++ said } →
      rule past (.manager endpoint asked)) :
    (liftM (atManager endpoint session) : Reconciling Value).run.Obeys rule
      (fun after => fun
        | .ok outcome => ∃ said, Converses session said outcome ∧
          Ledger.ofHistory after = { ledger with managed := ledger.managed ++ said }
        | .error _ => False) past := by
  subst known
  exact obeys_lift (obeys_atManager permits fun after said outcome converses entered =>
    ⟨said, converses, entered⟩)

/-- Recording the end asks for the status to be written that goes with the end of the execution and
the outcome of the collection. -/
theorem recordEnd_obeys {endpoint : Endpoint} {runId began : String} {started : Nat}
    {driven : Session.History} {result : Except Failure Report}
    (known : Ledger.ofHistory past = .underway run runId began driven)
    (starts : run.Starts runId) (canWrite : CanWrite run) (drives : run.Drives driven result) :
    (recordEnd run endpoint (run.runningStatus runId began) started result).run.Obeys
      (Executing run)
      (fun after _ => ∃ time collecting outcome lost,
        Converses Outputs.collect.run collecting outcome ∧ Ledger.ofHistory after =
          { Ledger.underway run runId began (driven ++ collecting) with
            written := [run.runningStatus runId began,
              run.closingStatus (run.runningStatus runId began) result time outcome]
            lost := lost }) past := by
  unfold recordEnd
  simp only [show (run.runningStatus runId began).phase = .running from rfl]
  rw [nextPhase_ending (by rintro _ rfl; rfl), bind_of_pure]
  -- Once the outputs are asked for, what is left is to write the status and to tell of the end.
  have written : ∀ past time collecting outcome,
      Converses Outputs.collect.run collecting outcome →
      Ledger.ofHistory past = .underway run runId began (driven ++ collecting) →
      (do
        writeStatus run (run.closingStatus (run.runningStatus runId began) result time outcome)
        let now ← clock
        measure
          (.runEnded (space run) (name run) (Phase.ofEnd result).label (seconds (now - started)))
        publishEnd run (.ofEnd result) result : Reconciling Unit).run.Obeys (Executing run)
      (fun after _ => ∃ time collecting outcome lost,
        Converses Outputs.collect.run collecting outcome ∧ Ledger.ofHistory after =
          { Ledger.underway run runId began (driven ++ collecting) with
            written := [run.runningStatus runId began,
              run.closingStatus (run.runningStatus runId began) result time outcome]
            lost := lost }) past := by
    intro past time collecting outcome collects known
    refine obeys_bind (writeStatus_obeys (.finish known starts drives (.closing collects time)))
      (fun past _ ended => ?_) fun past _ ended => ?_
    · rw [known] at ended
      cases ended with
      | written entered =>
        refine obeys_quiet_lift_bind entered (quiet_question rfl) (executing_of_known rfl)
          fun past now known => ?_
        refine obeys_quiet_lift_bind known (quiet_question rfl) (executing_of_known rfl)
          fun past _ known => ?_
        exact obeys_quiet_lift known quiet_publishEnd (executing_of_known rfl)
          fun past _ known => ⟨time, collecting, outcome, false, collects, known⟩
    · rw [known] at ended
      cases ended with
      | lost _ entered => exact ⟨time, collecting, outcome, true, collects, entered⟩
      | unsent _ _ cannot => exact absurd canWrite cannot
  refine obeys_bind (atManager_obeys known fun past said asked asks known =>
    .collect endpoint known starts drives asks) ?_ fun _ _ (impossible : False) => impossible.elim
  rintro past outcome ⟨collecting, collects, known⟩
  refine obeys_quiet_lift_bind known (quiet_question rfl) (executing_of_known rfl)
    fun past time known => ?_
  cases outcome with
  | error failure => exact written past time collecting (.error failure) collects known
  | ok outputs =>
    refine obeys_quiet_lift_bind known quiet_measureComponents (executing_of_known rfl)
      fun past _ known => ?_
    exact written past time collecting (.ok outputs) collects known

/-- The upgrade is driven under the claim, and its end is recorded unless it was stopped. -/
theorem executeClaimed_obeys (sound : run.fault? = none)
    (known : Ledger.ofHistory past = { claim := some run.spec.manager.url }) :
    (executeClaimed run {}).run.Obeys (Executing run)
      (fun after _ => Over run (some run.spec.manager.url) (Ledger.ofHistory after) ∧
        Balanced run (Ledger.ofHistory after)) past := by
  unfold executeClaimed
  refine obeys_quiet_bind known quiet_connect (executing_of_known rfl)
    (fun past endpoint known => ?_) fun past _ known => ?_
  · refine obeys_bind (recordStart_obeys sound known) (fun past running started => ?_)
      fun past error spoilt => ?_
    · cases started with
      | @running runId began starts entered canWrite =>
        refine obeys_quiet_lift_bind entered quiet_publish (executing_of_known rfl)
          fun past _ known => ?_
        refine obeys_quiet_lift_bind known (quiet_question rfl) (executing_of_known rfl)
          fun past started known => ?_
        refine obeys_bind (atManager_obeys known fun past driven asked asks known =>
          .drive endpoint known starts asks) ?_ fun _ _ (impossible : False) => impossible.elim
        rintro past result ⟨driven, converses, known⟩
        have recorded : (∀ component, result ≠ .error (.cancelled component)) →
            (do
              recordEnd run endpoint (run.runningStatus runId began) started result
              return .requeue refreshSeconds : Reconciling Action).run.Obeys (Executing run)
            (fun after _ => Over run (some run.spec.manager.url) (Ledger.ofHistory after) ∧
              Balanced run (Ledger.ofHistory after)) past := by
          intro uncancelled
          have drives : run.Drives driven result := ⟨converses, uncancelled⟩
          refine obeys_bind_keeping
            (fun past => Over run (some run.spec.manager.url) (Ledger.ofHistory past) ∧
              Balanced run (Ledger.ofHistory past))
            ((recordEnd_obeys known starts canWrite drives).mono
              (fun _ _ permitted => permitted) ?_)
            (fun past _ finished => finished) fun past _ finished => finished
          rintro past _ ⟨time, collecting, outcome, lost, collects, entered⟩
          rw [entered]
          refine ⟨⟨rfl, rfl, ?_⟩, .recorded drives collects rfl rfl⟩
          cases lost with
          | true => exact .spoilt (.inl rfl)
          | false =>
            have ends : run.Ends (run.runningStatus runId began) result _ := .closing collects time
            exact .ended sound rfl converses uncancelled (congrArg some ends.phase)
        cases result with
        | ok report => exact recorded nofun
        | error failure =>
          cases failure with
          | cancelled component =>
            change Over run (some run.spec.manager.url) (Ledger.ofHistory past) ∧
              Balanced run (Ledger.ofHistory past)
            rw [known]
            exact ⟨⟨rfl, rfl, .cancelled sound rfl converses⟩, .cancelled converses rfl⟩
          | call _ _ _ _ | waitTimeout _ _ _ _ | unexpectedStatus _ _ _ | statusNotFound _ =>
            exact recorded nofun
    · cases spoilt with
      | spoilt _ spoilt => exact ⟨spoilt.finished rfl, .unstarted spoilt.managed⟩
  · rw [known]
    exact ⟨⟨rfl, rfl, .unstarted sound rfl rfl⟩, .unstarted rfl⟩

/-- What is known of the claim when a reconcile is over, however it ended. -/
structure Yielded (run : RunObject) (ledger : Ledger) (result : Except ReconcileError Action) :
    Prop where
  unclaimed : ledger.claim = none
  /-- A refused claim ends the reconcile before anything was written or said. -/
  refused : ledger.refused = true → result = .error (.runInProgress run.spec.manager.url) ∧
    ledger.written = [] ∧ ledger.managed = []

/-- A reconcile that goes on was not refused a claim. -/
theorem Yielded.unrefused {action : Action} (yielded : Yielded run ledger (.ok action)) :
    ledger.refused = false := by
  cases refused : ledger.refused with
  | false => rfl
  | true => cases (yielded.refused refused).1

/-- Where no claim is held and none was refused, nothing is left to give up. -/
theorem yielded_of_unrefused {result : Except ReconcileError Action}
    (unclaimed : ledger.claim = none) (unrefused : ledger.refused = false) :
    Yielded run ledger result :=
  ⟨unclaimed, fun refused => by simp [unrefused] at refused⟩

/-- Nothing is left to give up as long as nothing was done but to talk to the manager. -/
theorem yielded_of_known {result : Except ReconcileError Action} {said : Session.History}
    (known : Ledger.ofHistory past = { managed := said }) :
    Yielded run (Ledger.ofHistory past) result := by
  rw [known]
  exact yielded_of_unrefused rfl rfl

/-- What is known when an execution is over, however it ended. -/
structure Executed (run : RunObject) (ledger : Ledger) (result : Except ReconcileError Action) :
    Prop extends Yielded run ledger result where
  ending : Ending run ledger

/-- How a reconcile ends depends on what was written and managed only. -/
theorem Ending.congr {before after : Ledger} (ending : Ending run before)
    (written : after.written = before.written) (lost : after.lost = before.lost)
    (managed : after.managed = before.managed) : Ending run after := by
  have lastPhase : after.lastPhase? = before.lastPhase? := by
    simp only [Ledger.lastPhase?, written]
  cases ending with
  | spoilt unwritten => exact .spoilt (by rwa [lost])
  | rejected faulty phase idle =>
    exact .rejected faulty (lastPhase.trans phase) (managed.trans idle)
  | unstarted sound nothing idle =>
    exact .unstarted sound (written.trans nothing) (managed.trans idle)
  | cancelled sound phase driven =>
    exact .cancelled sound (lastPhase.trans phase) (managed ▸ driven)
  | ended sound said ends uncancelled phase =>
    exact .ended sound (managed.trans said) ends uncancelled (lastPhase.trans phase)

/-- Whether a reconcile is balanced depends on what was written and managed only. -/
theorem Balanced.congr {before after : Ledger} (balanced : Balanced run before)
    (written : after.written = before.written) (managed : after.managed = before.managed) :
    Balanced run after := by
  cases balanced with
  | unstarted idle => exact .unstarted (managed.trans idle)
  | cancelled driven running => exact .cancelled (managed ▸ driven) (written.trans running)
  | recorded drives collects said recorded =>
    exact .recorded drives collects (managed.trans said) (written.trans recorded)

/-- An execution keeps to its rule, gives its claim up, and has written how it ended. -/
theorem execute_balances (known : Ledger.ofHistory past = {}) :
    (execute run {}).run.Obeys (Executing run)
      (fun after result => Executed run (Ledger.ofHistory after) result ∧
        Balanced run (Ledger.ofHistory after)) past := by
  unfold execute
  cases faulty : run.fault? with
  | some fault =>
    refine (reject_obeys faulty known).mono (fun _ _ permitted => permitted) fun _ _ finished => ?_
    obtain ⟨ends, balanced⟩ := finished
    exact ⟨⟨yielded_of_unrefused ends.claim ends.unrefused, ends.ending⟩, balanced⟩
  | none =>
    refine ⟨.claim known, fun granted => ?_⟩
    cases granted with
    | false =>
      change Executed run (Ledger.ofHistory (past ++ [_])) _ ∧
        Balanced run (Ledger.ofHistory (past ++ [_]))
      rw [Ledger.ofHistory_snoc, known]
      exact ⟨⟨⟨rfl, fun _ => ⟨rfl, rfl, rfl⟩⟩, .unstarted faulty rfl rfl⟩, .unstarted rfl⟩
    | true =>
      have claimed : Ledger.ofHistory (past ++ [⟨.claim run.spec.manager.url, true⟩]) =
          { claim := some run.spec.manager.url } := by
        rw [Ledger.ofHistory_snoc, known]
        rfl
      change Obeys _ _ ((executeClaimed run {}).run.andThen fun result =>
        (release run.spec.manager.url).andThen fun _ => .done result) _
      refine obeys_andThen.2 ((executeClaimed_obeys faulty claimed).mono
        (fun _ _ permitted => permitted) fun past result finished => ?_)
      obtain ⟨ends, balanced⟩ := finished
      refine ⟨.release ends.unrefused ends.claim, fun _ => ?_⟩
      change Executed run (Ledger.ofHistory (past ++ [_])) _ ∧
        Balanced run (Ledger.ofHistory (past ++ [_]))
      rw [Ledger.ofHistory_snoc]
      exact ⟨⟨yielded_of_unrefused rfl ends.unrefused, ends.ending.congr rfl rfl rfl⟩,
        balanced.congr rfl rfl⟩

/-- A refresh keeps to its rule and leaves no claim behind. -/
theorem refresh_obeys (known : Ledger.ofHistory past = {}) :
    (refresh run).run.Obeys (Refreshing run)
      (fun after result => Yielded run (Ledger.ofHistory after) result) past := by
  unfold refresh
  refine obeys_quiet_bind known quiet_connect (refreshing_of_known rfl)
    (fun past endpoint known => ?_) fun past _ known => ?_
  · refine obeys_bind (atManager_obeys known fun past said asked asks known =>
      .collect endpoint known asks) ?_ fun _ _ (impossible : False) => impossible.elim
    rintro past outcome ⟨said, converses, known⟩
    cases outcome with
    | error failure =>
      exact yielded_of_known known
    | ok outputs =>
      refine obeys_quiet_lift_bind known quiet_measureComponents (refreshing_of_known rfl)
        fun past _ known => ?_
      by_cases unchanged : run.recorded.outputs = outputs
      · simp only [unchanged, if_true]
        exact yielded_of_known known
      · simp only [unchanged, if_false]
        refine obeys_bind_keeping
          (fun past => (Ledger.ofHistory past).claim = none ∧
            (Ledger.ofHistory past).refused = false)
          ((writeStatus_obeys (.record known converses)).mono (fun _ _ permitted => permitted)
            fun past outcome ended => ?_)
          (fun past _ kept => yielded_of_unrefused kept.1 kept.2)
          fun past _ kept => yielded_of_unrefused kept.1 kept.2
        rw [known] at ended
        exact ended.keeps
  · exact yielded_of_known known

/-- A patch of the finalizers is the last thing that is done about them. -/
theorem patchFinalizers_obeys {finalizers : List String} (known : Ledger.ofHistory past = {}) :
    (do
      let _ ← fromStore RunObject.ofJson? (.patchRun (space run) (name run)
        (StoreRequest.finalizersPatch finalizers)) : Reconciling Unit).run.Obeys (Finalizing run)
      (fun past _ => Ledger.ofHistory past = {}) past :=
  obeys_bind_keeping (fun past => Ledger.ofHistory past = {})
    ((patchRun_obeys (.patch finalizers known)).mono (fun _ _ permitted => permitted)
      fun _ _ same => same.trans known)
    (fun _ _ known => known) fun _ _ known => known

/-- Putting the finalizer in keeps to its rule and enters nothing. -/
theorem addFinalizer_obeys (known : Ledger.ofHistory past = {}) :
    (addFinalizer run).run.Obeys (Finalizing run) (fun past _ => Ledger.ofHistory past = {})
      past := by
  refine obeys_quiet_bind known (quiet_fromStore rfl) finalizing_of_known
    (fun past stored known => ?_) fun _ _ known => known
  by_cases present : finalizer ∈ stored.metadata.allFinalizers
  · simp only [present, if_true]
    exact known
  · simp only [present, if_false]
    exact patchFinalizers_obeys known

/-- Taking the finalizer out keeps to its rule and enters nothing. -/
theorem removeFinalizer_obeys (known : Ledger.ofHistory past = {}) :
    (removeFinalizer run).run.Obeys (Finalizing run) (fun past _ => Ledger.ofHistory past = {})
      past := by
  refine obeys_quiet_lift_bind known (quiet_askStore rfl) finalizing_of_known
    fun past answer known => ?_
  cases answer with
  | error error =>
    by_cases missing : error.isNotFound = true
    · simp only [missing, if_true]
      exact known
    · simp only [missing]
      exact known
  | ok value =>
    cases read : RunObject.ofJson? value with
    | none =>
      simp only [read]
      exact known
    | some stored =>
      simp only [read]
      by_cases absent : (stored.metadata.allFinalizers.filter (· ≠ finalizer)).length =
          stored.metadata.allFinalizers.length
      · simp only [absent, if_true]
        exact known
      · simp only [absent, if_false]
        exact patchFinalizers_obeys known

-- From here on an execution is known by what it obeys.
attribute [local irreducible] execute

/-- An execution keeps to its rule, and it gives its claim up. -/
theorem execute_obeys (known : Ledger.ofHistory past = {}) :
    (execute run {}).run.Obeys (Executing run)
      (fun after result => Executed run (Ledger.ofHistory after) result) past :=
  (execute_balances known).mono (fun _ _ permitted => permitted) fun _ _ finished => finished.1

/-- What comes after a refresh or an execution only tells of it. -/
theorem told_obeys {part : Reconciling Action} {rule : Rule Question Answer}
    {holds : Ledger → Except ReconcileError Action → Prop} (started : Nat)
    (unrefused : ∀ ledger action, holds ledger (.ok action) → ledger.refused = false)
    (permits : ∀ past question, (Ledger.ofHistory past).refused = false →
      question.isQuiet = true → rule past question)
    (obeys : part.run.Obeys rule (fun after result => holds (Ledger.ofHistory after) result) past) :
    (do
      let action ← part
      let now ← clock
      measure (.reconciled (space run) (name run) (seconds (now - started)))
      forgetFailures run
      return action : Reconciling Action).run.Obeys rule
      (fun after result => holds (Ledger.ofHistory after) result) past := by
  refine obeys_bind obeys (fun past action ended => ?_) fun _ _ ended => ended
  have permitted : ∀ ledger, ledger = Ledger.ofHistory past → ∀ past question,
      Ledger.ofHistory past = ledger → question.isQuiet = true → rule past question := by
    rintro _ rfl past question known quiet
    exact permits past question (known ▸ unrefused _ _ ended) quiet
  refine obeys_quiet_lift_bind rfl (quiet_question rfl) (permitted _ rfl) fun past now known => ?_
  refine obeys_quiet_lift_bind known (quiet_question rfl) (permitted _ rfl) fun past _ known => ?_
  refine obeys_quiet_lift_bind known (quiet_question rfl) (permitted _ rfl) fun past _ known => ?_
  change holds (Ledger.ofHistory past) _
  rw [known]
  exact ended

/-- A reconcile keeps to the rule of its task, and it gives its claim up. -/
theorem reconcile_obeys_task (known : Ledger.ofHistory past = {}) :
    (reconcile run {}).run.Obeys (Undertaking run (task run))
      (fun after result => Yielded run (Ledger.ofHistory after) result) past := by
  have timed : ∀ past, Ledger.ofHistory past = {} →
      Undertaking run (task run) past .clock := by
    intro past known
    cases task run with
    | finalize => exact .quiet known rfl
    | refresh | execute => exact .quiet (by rw [known]) rfl
  unfold reconcile
  refine obeys_question_bind (timed past known) fun started => ?_
  have known : Ledger.ofHistory (past ++ [⟨.clock, started⟩]) = {} := by
    rw [Ledger.ofHistory_snoc, known]
    rfl
  by_cases deleted : run.metadata.deletionTimestamp.isSome = true
  · rw [show task run = .finalize from if_pos (.inl deleted)]
    simp only [deleted, if_true]
    refine obeys_bind_keeping (fun past => Ledger.ofHistory past = {}) (removeFinalizer_obeys known)
      (fun past _ known => ?_) fun past _ known => yielded_of_known known
    exact obeys_quiet_lift_bind known (quiet_question rfl) finalizing_of_known
      fun past _ known => yielded_of_known known
  · simp only [deleted]
    by_cases missing : finalizer ∉ run.metadata.allFinalizers
    · rw [show task run = .finalize from if_pos (.inr missing)]
      simp only [missing]
      exact obeys_bind_keeping (fun past => Ledger.ofHistory past = {}) (addFinalizer_obeys known)
        (fun past _ known => yielded_of_known known) fun past _ known => yielded_of_known known
    · simp only [missing]
      have kept : ¬ (run.metadata.deletionTimestamp.isSome = true ∨
          finalizer ∉ run.metadata.allFinalizers) := not_or.2 ⟨deleted, missing⟩
      by_cases observed : isObserved run = true
      · rw [show task run = .refresh from (if_neg kept).trans (if_pos observed)]
        simp only [observed, if_true]
        exact told_obeys started (fun _ _ => Yielded.unrefused) (fun _ _ => .quiet)
          (refresh_obeys known)
      · rw [show task run = .execute from (if_neg kept).trans (if_neg observed)]
        simp only [observed]
        exact told_obeys started (fun _ _ => Yielded.unrefused) (fun _ _ => .quiet)
          ((execute_obeys known).mono (fun _ _ permitted => permitted)
            fun _ _ executed => executed.toYielded)

/-- A reconcile that executes its run asks for the time, executes it and tells of that. -/
theorem reconcile_run_of_execute (executes : task run = .execute) :
    (reconcile run {}).run = .ask .clock fun (started : Nat) => (do
      let action ← execute run {}
      let now ← clock
      measure (.reconciled (space run) (name run) (seconds (now - started)))
      forgetFailures run
      return action : Reconciling Action).run := by
  have kept : ¬ (run.metadata.deletionTimestamp.isSome = true ∨
      finalizer ∉ run.metadata.allFinalizers) := by
    intro finalizes
    have finalizes : task run = .finalize := if_pos finalizes
    cases finalizes.symm.trans executes
  have unobserved : ¬ isObserved run = true := by
    intro observed
    have refreshes : task run = .refresh := (if_neg kept).trans (if_pos observed)
    cases refreshes.symm.trans executes
  obtain ⟨lasting, present⟩ := not_or.1 kept
  unfold reconcile
  simp only [lasting, present, unobserved]
  rfl

/-- A reconcile that executes its run has written how the execution ended. -/
theorem reconcile_balances (executes : task run = .execute) :
    (reconcile run {}).run.Obeys (Executing run)
      (fun after _ => Balanced run (Ledger.ofHistory after)) [] := by
  rw [reconcile_run_of_execute executes]
  refine ⟨.quiet rfl rfl, fun (started : Nat) => ?_⟩
  have known : Ledger.ofHistory ([] ++ [⟨.clock, started⟩]) = {} := rfl
  have told := @told_obeys run _ (execute run {}) (Executing run)
    (fun ledger result => Executed run ledger result ∧ Balanced run ledger) started
    (fun _ _ ended => ended.1.unrefused) (fun _ _ => .quiet) (execute_balances known)
  exact told.mono (fun _ _ permitted => permitted) fun _ _ ended => ended.2

/-- A reconcile is lawful, and it gives its claim up. -/
theorem reconcile_obeys (known : Ledger.ofHistory past = {}) :
    (reconcile run {}).run.Obeys (Lawful run)
      (fun after result => Yielded run (Ledger.ofHistory after) result) past :=
  (reconcile_obeys_task known).mono (fun _ _ undertaking => undertaking.lawful)
    fun _ _ yielded => yielded

end Reconcile

end FabricUpgrade
