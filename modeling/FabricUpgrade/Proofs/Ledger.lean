import FabricUpgrade.Operator.Reconcile
import FabricUpgrade.Proofs.Probe

/-!
# The ledger of a reconcile

Most of what a reconcile asks leaves no trace that matters later.  `Reconcile.Ledger` is what does:
the statuses that were asked to be written, what was said at a manager, and the claim.  A step of a
reconcile that is `Reconcile.Quiet` leaves the ledger and the stored run as they are, so the steps
that are not can be followed through it one by one.
-/

namespace FabricUpgrade

open Program

namespace Reconcile

/-- The exchanges of a reconcile so far, in order. -/
abbrev History : Type :=
  Program.History Question Answer

/-- The question is entered in no ledger, and it changes nothing that is stored of the run. -/
def Question.isQuiet : Question → Bool
  | .store (.writeStatus _ _ _) | .store (.patchRun _ _ _) | .manager _ _ | .claim _
  | .release _ => false
  | _ => true

/-- What has been done in a reconcile. -/
structure Ledger where
  /-- The statuses that were asked to be written, in order. -/
  written : List RunStatus := []
  /-- Whether a status that was asked to be written was not. -/
  lost : Bool := false
  /-- What was said at the manager, in order. -/
  managed : Session.History := []
  /-- The URL whose manager is claimed. -/
  claim : Option String := none
  /-- Whether a claim was refused. -/
  refused : Bool := false

/-- The answer to a request that writes a run shows that it was written. -/
def isWritten : Except StoreError Json → Bool
  | .ok value => (RunObject.ofJson? value).isSome
  | .error _ => false

namespace Ledger

/-- Enters an exchange. -/
def enter (ledger : Ledger) : Program.Exchange Question Answer → Ledger
  | ⟨.store (.writeStatus _ _ status), answer⟩ =>
    { ledger with
      written := ledger.written ++ [status]
      lost := ledger.lost || !isWritten answer }
  | ⟨.manager _ question, answer⟩ =>
    { ledger with managed := ledger.managed ++ [⟨question, answer⟩] }
  | ⟨.claim url, answer⟩ =>
    let granted : Bool := answer
    if granted then { ledger with claim := some url } else { ledger with refused := true }
  | ⟨.release _, _⟩ => { ledger with claim := none }
  | _ => ledger

/-- The ledger of the exchanges so far. -/
def ofHistory (past : History) : Ledger :=
  past.foldl enter {}

/-- The phase of the status that was asked to be written last. -/
def lastPhase? (ledger : Ledger) : Option Phase :=
  ledger.written.getLast?.map RunStatus.phase

variable {ledger : Ledger} {past : History} {exchange : Program.Exchange Question Answer}

@[simp]
theorem ofHistory_nil : ofHistory [] = {} :=
  rfl

@[simp]
theorem ofHistory_snoc : ofHistory (past ++ [exchange]) = (ofHistory past).enter exchange := by
  simp [ofHistory, List.foldl_append]

/-- A quiet question is entered nowhere. -/
theorem enter_of_isQuiet (quiet : exchange.question.isQuiet = true) :
    ledger.enter exchange = ledger := by
  obtain ⟨question, answer⟩ := exchange
  cases question with
  | store request => cases request <;> first | rfl | cases quiet
  | manager _ _ | claim _ | release _ => cases quiet
  | buildClient _ | newRunId | timestamp | clock | measure _ | forgetFailures _ => rfl

/-- Only a question that writes a status enters one. -/
theorem written_enter
    (elsewhere : ∀ target other status,
      exchange.question ≠ .store (.writeStatus target other status)) :
    (ledger.enter exchange).written = ledger.written ∧
      (ledger.enter exchange).lost = ledger.lost := by
  obtain ⟨question, answer⟩ := exchange
  cases question with
  | store request =>
    cases request with
    | writeStatus target other status => exact absurd rfl (elsewhere target other status)
    | getRun _ _ | patchRun _ _ _ | getSecret _ _ | publish _ _ => exact ⟨rfl, rfl⟩
  | claim url => cases answer <;> exact ⟨rfl, rfl⟩
  | manager _ _ | release _ | buildClient _ | newRunId | timestamp | clock | measure _ | forgetFailures _ =>
    exact ⟨rfl, rfl⟩

end Ledger

/-- The program asks only quiet questions. -/
def Quiet {Result : Type} (program : Reconcile Result) : Prop :=
  ∀ past, program.Obeys (fun _ question => question.isQuiet = true) (fun _ _ => True) past

section Quiet

variable {Value : Type}

/-- A quiet question is a quiet program. -/
theorem quiet_question {asked : Question} (quiet : asked.isQuiet = true) :
    Quiet (Program.question asked) :=
  only_question quiet

/-- A quiet program leaves the ledger as it is, at each of its questions and at its end. -/
theorem Quiet.obeys {program : Reconcile Value} {past : History} (quiet : Quiet program)
    (ledger : Ledger) (known : Ledger.ofHistory past = ledger) :
    program.Obeys
      (fun past question => Ledger.ofHistory past = ledger ∧ question.isQuiet = true)
      (fun past _ => Ledger.ofHistory past = ledger) past := by
  refine Only.keeps quiet (fun past => Ledger.ofHistory past = ledger) known ?_
  rintro past exchange quiet rfl
  rw [Ledger.ofHistory_snoc, Ledger.enter_of_isQuiet quiet]

end Quiet

/-!
## What the stages ask

Which kinds the questions of a stage are of is settled by the few requests that it makes.
-/

section Stages

variable {run : RunObject} {request : StoreRequest} {kind : Question → Prop}

/-- Asking the store asks that request only. -/
theorem only_askStore (ofKind : kind (.store request)) : Only kind (askStore request) := by
  unfold askStore
  by_cases sendable : request.isSendable = true
  · simp only [sendable]
    exact only_question ofKind
  · simp only [sendable]
    exact only_done _

-- Whether a request can be sent is a computation on texts that nothing below has to look into.
attribute [local irreducible] askStore

/-- Publishing asks to publish notices only. -/
theorem only_publish (ofKind : ∀ notice, kind (.store (.publish (space run) notice)))
    {isWarning : Bool} {reason action note : String} :
    Only kind (publish run isWarning reason action note) :=
  only_andThen (only_askStore (ofKind _)) fun _ => only_done _

/-- Measuring the components only measures. -/
theorem only_measureComponents (ofKind : ∀ measurement, kind (.measure measurement))
    {states : List ComponentState} : Only kind (measureComponents run states) := by
  induction states with
  | nil => exact only_done _
  | cons state rest inductionHypothesis =>
    exact only_andThen (only_question (ofKind _)) fun _ => inductionHypothesis

/-- Publishing how a run ended asks to publish notices only. -/
theorem only_publishEnd (ofKind : ∀ notice, kind (.store (.publish (space run) notice)))
    {phase : Phase} {result : Except Failure Report} : Only kind (publishEnd run phase result) := by
  cases result with
  | error failure => exact only_publish ofKind
  | ok report =>
    unfold publishEnd
    by_cases partly : phase = .partiallyCompleted
    · simp only [partly, if_true]
      exact only_publish ofKind
    · simp only [partly, if_false]
      exact only_publish ofKind

/-- Whatever is decoded from what the store answers, the request decides on its own. -/
theorem only_fromStore {α : Type} {decode : Json → Option α} (ofKind : kind (.store request)) :
    Only kind (fromStore decode request).run := by
  refine only_bind (only_lift (only_askStore ofKind)) fun answer => ?_
  cases answer with
  | error _ => exact only_done _
  | ok value =>
    cases read : decode value with
    | none => simp only [read]; exact only_done _
    | some _ => simp only [read]; exact only_done _

/-- Reading the credentials asks for secrets only. -/
theorem only_readCredentials (ofKind : ∀ name, kind (.store (.getSecret (space run) name))) :
    Only kind (readCredentials run).run := by
  refine only_bind (only_lift (only_askStore (ofKind _))) fun answer => ?_
  cases answer with
  | error error =>
    by_cases missing : error.isNotFound = true
    · simp only [missing, if_true]
      exact only_done _
    · simp only [missing]
      exact only_done _
  | ok value =>
    cases read : Secret.ofJson? value with
    | none => simp only [read]; exact only_done _
    | some secret =>
      simp only [read]
      cases secret.text run.spec.manager.credentials.usernameKey with
      | error _ => exact only_done _
      | ok username =>
        cases secret.text run.spec.manager.credentials.passwordKey with
        | error _ => exact only_done _
        | ok password => exact only_done _

/-- Connecting asks for secrets and builds a client, and that is all. -/
theorem only_connect (reads : ∀ name, kind (.store (.getSecret (space run) name)))
    (builds : ∀ insecure, kind (.buildClient insecure)) : Only kind (connect run).run := by
  refine only_bind (only_readCredentials reads) fun credentials => ?_
  refine only_bind (only_lift (only_question (builds _))) fun built => ?_
  cases built with
  | error _ => exact only_done _
  | ok _ => exact only_done _

theorem quiet_askStore (quiet : (Question.store request).isQuiet = true) :
    Quiet (askStore request) :=
  only_askStore quiet

theorem quiet_publish {isWarning : Bool} {reason action note : String} :
    Quiet (publish run isWarning reason action note) :=
  only_publish fun _ => rfl

theorem quiet_measureComponents {states : List ComponentState} :
    Quiet (measureComponents run states) :=
  only_measureComponents fun _ => rfl

theorem quiet_publishEnd {phase : Phase} {result : Except Failure Report} :
    Quiet (publishEnd run phase result) :=
  only_publishEnd fun _ => rfl

/-- A quiet request whose answer is read is quiet. -/
theorem quiet_fromStore {α : Type} {decode : Json → Option α}
    (quiet : (Question.store request).isQuiet = true) : Quiet (fromStore decode request).run :=
  only_fromStore quiet

theorem quiet_connect : Quiet (connect run).run :=
  only_connect (fun _ => rfl) fun _ => rfl

end Stages

end Reconcile

end FabricUpgrade
