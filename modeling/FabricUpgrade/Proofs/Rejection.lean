import Mathlib.Data.List.Induction
import FabricUpgrade.Proofs.Moments
import FabricUpgrade.Proofs.PlainRun

/-!
# What is done with rejected runs

An execution looks at its run first and rejects it before anything is said at its manager.  The
rejection is recorded as an observation of the generation, though, and a run whose generation has
been observed is refreshed without being looked at again.  So a run that is not accepted is left in
peace exactly if it is not refreshed, or if its credentials cannot be asked for, or if no request
can be sent to the URL of its manager.
-/

namespace FabricUpgrade

open Program

namespace Endpoint

variable {endpoint other : Endpoint} {route : Route}

/-- The URL of a route is up to the URL that all others start with. -/
theorem urlOf_congr (same : endpoint.baseUrl = other.baseUrl) :
    endpoint.urlOf route = other.urlOf route := by
  simp only [urlOf, urlText, same]

/-- The listing of all groups begins with a request if its URL can be sent. -/
theorem perform_listGroups_of_ok {url : Text.Url}
    (addressed : endpoint.urlOf (Endpoint.route (.listGroups none)) = .ok url) :
    ∃ request resume, endpoint.perform 1 (.listGroups none) = .ask request resume := by
  have sent : ∃ request resume,
      endpoint.send ((Endpoint.route (.listGroups none)).withCursor none) =
        .ask request resume := by
    change ∃ request resume, endpoint.send (Endpoint.route (.listGroups none)) = _
    unfold send
    rw [addressed]
    exact ⟨_, _, rfl⟩
  obtain ⟨request, resume, sent⟩ := sent
  simp only [perform, listFrom, fetch, sent]
  exact ⟨_, _, rfl⟩

/-- Without such a URL the listing fails, and nothing is sent. -/
theorem perform_listGroups_of_error {error : ManagerError} (pages : Nat)
    (unaddressed : endpoint.urlOf (Endpoint.route (.listGroups none)) = .error error) :
    ∃ error, endpoint.perform pages (.listGroups none) = .done (.error error) := by
  cases pages with
  | zero => exact ⟨_, rfl⟩
  | succ pages =>
    have unsent : endpoint.send ((Endpoint.route (.listGroups none)).withCursor none) =
        .done (.error error) := by
      change endpoint.send (Endpoint.route (.listGroups none)) = _
      unfold send
      rw [unaddressed]
      rfl
    simp only [perform, listFrom, fetch, unsent]
    exact ⟨error, rfl⟩

end Endpoint

namespace Outputs

open Session

variable {said : Session.History}

/-- The outputs are collected beginning with the groups, and not at all if they cannot be listed. -/
theorem collect_run : ∃ resume, collect.run = .ask (.call (.listGroups none)) resume ∧
    ∀ error, ∃ failure, resume (.error error) = .done (.error failure) :=
  ⟨_, rfl, fun _ => ⟨_, rfl⟩⟩

/-- Where the groups could not be listed, nothing is asked but that. -/
theorem listing_of_asks {asked : Session.Question} (asks : Asks collect.run said asked)
    (fails : ∀ answer, ⟨.call (.listGroups none), answer⟩ ∈ said →
      ∃ error, answer = .error error) : asked = .call (.listGroups none) := by
  obtain ⟨resume, begins, ends⟩ := collect_run
  obtain ⟨later, reached⟩ := asks
  rw [begins] at reached
  cases reached with
  | here => rfl
  | ask answer goesOn =>
    obtain ⟨error, rfl⟩ := fails answer List.mem_cons_self
    obtain ⟨failure, ended⟩ := ends error
    rw [ended] at goesOn
    cases goesOn

/-- Where the groups could not be listed, no outputs are collected. -/
theorem not_collects {outputs : Outputs} (collects : Converses collect.run said (.ok outputs))
    (fails : ∀ answer, ⟨.call (.listGroups none), answer⟩ ∈ said →
      ∃ error, answer = .error error) : False := by
  obtain ⟨resume, begins, ends⟩ := collect_run
  rw [begins] at collects
  cases collects with
  | ask answer goesOn =>
    obtain ⟨error, rfl⟩ := fails answer List.mem_cons_self
    obtain ⟨failure, ended⟩ := ends error
    rw [ended] at goesOn
    cases goesOn

end Outputs

namespace Reconcile

variable {run : RunObject} {past : History} {rest : Reconcile (Except ReconcileError Action)}

/-- The endpoint is one that the credentials of the run lead to. -/
structure Connects (run : RunObject) (endpoint : Endpoint) : Prop where
  readable :
    (StoreRequest.getSecret (space run) run.spec.manager.credentials.name).isSendable = true
  address : endpoint.baseUrl = Text.trimSlashes run.spec.manager.url

/-- If the question is one at a manager, it is one at the manager of the run. -/
def Question.Connected (run : RunObject) (asked : Question) : Prop :=
  ∀ endpoint question, asked = .manager endpoint question → Connects run endpoint

/-- The run is refreshed, its credentials can be asked for, and a request can be sent to the URL of
its manager. -/
structure Exposed (run : RunObject) : Prop where
  refreshes : task run = .refresh
  readable :
    (StoreRequest.getSecret (space run) run.spec.manager.credentials.name).isSendable = true
  addressed : ∃ url, (Endpoint.ofUrl run.spec.manager.url "" "" false).urlOf
    (Endpoint.route (.listGroups none)) = .ok url

/-- The answers to the calls at managers are ones that can come of their requests. -/
def Transported (past : History) : Prop :=
  ∀ endpoint call (answer : Call.Answer call), ⟨.manager endpoint (.call call), answer⟩ ∈ past →
    ∃ pages outcomes, Converses (endpoint.perform pages call) outcomes answer

section Connecting

/-- What the store has answered well it was asked. -/
theorem askStore_sent {kind : Question → Prop} {request : StoreRequest}
    (ofKind : kind (.store request)) :
    (askStore request).Obeys (fun _ asked => kind asked)
      (fun _ answer => ∀ value, answer = .ok value → request.isSendable = true) past := by
  by_cases sendable : request.isSendable = true
  · rw [askStore_of_isSendable sendable]
    exact ⟨ofKind, fun _ _ _ => sendable⟩
  · have unsent : askStore request = .done (.error .malformed) := by
      simp only [askStore, sendable]
      rfl
    rw [unsent]
    rintro value ⟨⟩

attribute [local irreducible] askStore

/-- Credentials that were read could be asked for. -/
theorem readCredentials_sent :
    (readCredentials run).run.Obeys (fun _ asked => asked.Connected run)
      (Returning fun _ _ =>
        (StoreRequest.getSecret (space run) run.spec.manager.credentials.name).isSendable = true)
      past := by
  unfold readCredentials
  refine obeys_bind_returning (obeys_lift (askStore_sent nofun)) fun past answer sent => ?_
  cases answer with
  | error error =>
    by_cases missing : error.isNotFound = true
    · simp only [missing, if_true]
      trivial
    · simp only [missing]
      trivial
  | ok value =>
    cases read : Secret.ofJson? value with
    | none => simp only [read]; trivial
    | some secret =>
      simp only [read]
      cases secret.text run.spec.manager.credentials.usernameKey with
      | error _ => trivial
      | ok username =>
        cases secret.text run.spec.manager.credentials.passwordKey with
        | error _ => trivial
        | ok password => exact sent value rfl

/-- Connecting asks what it takes to connect, and returns where the run is connected to. -/
theorem connect_connects :
    (connect run).run.Obeys (fun _ asked => asked.Connected run)
      (Returning fun _ endpoint => Connects run endpoint) past := by
  unfold connect
  refine obeys_bind_returning readCredentials_sent fun past credentials readable => ?_
  refine obeys_bind_returning (obeys_lift (only_question nofun past)) fun past built _ => ?_
  cases built with
  | error _ => trivial
  | ok _ => exact ⟨readable, rfl⟩

/-- A session where the run is connected to asks only that manager. -/
theorem connected_atManager {Value : Type} {endpoint : Endpoint} (session : Session Value)
    (connects : Connects run endpoint) :
    Only (Question.Connected run) (atManager endpoint session) := by
  induction session with
  | done result => exact only_done _
  | ask asked resume inductionHypothesis =>
    refine fun past => ⟨?_, fun reply => inductionHypothesis reply _⟩
    rintro _ _ ⟨⟩
    exact connects

/-- A refresh asks only where the run is connected to. -/
theorem connected_refresh : Only (Question.Connected run) (refresh run).run := by
  intro past
  unfold refresh
  refine obeys_bind connect_connects (fun past endpoint connects => ?_) fun _ _ _ => trivial
  refine only_bind (only_lift (connected_atManager _ connects)) (fun outcome => ?_) past
  cases outcome with
  | error failure => exact only_done _
  | ok outputs =>
    refine only_bind (only_lift (only_measureComponents fun _ => nofun)) fun _ => ?_
    by_cases unchanged : run.recorded.outputs = outputs
    · simp only [unchanged, if_true]
      exact only_done _
    · simp only [unchanged, if_false]
      exact only_bind (only_bind (only_fromStore nofun) fun _ => only_done _) fun _ => only_done _

/-- The reconcile of a run that is refreshed. -/
theorem reconcile_run_of_refresh (refreshes : task run = .refresh) :
    (reconcile run {}).run = .ask .clock fun (started : Nat) => (do
      let action ← refresh run
      let now ← clock
      measure (.reconciled (space run) (name run) (seconds (now - started)))
      forgetFailures run
      return action : Reconciling Action).run := by
  have kept : ¬ (run.metadata.deletionTimestamp.isSome = true ∨
      finalizer ∉ run.metadata.allFinalizers) := by
    intro finalizes
    have finalizes : task run = .finalize := if_pos finalizes
    cases finalizes.symm.trans refreshes
  have observed : isObserved run = true := by
    by_cases observed : isObserved run = true
    · exact observed
    · have executes : task run = .execute := (if_neg kept).trans (if_neg observed)
      cases executes.symm.trans refreshes
  obtain ⟨lasting, present⟩ := not_or.1 kept
  unfold reconcile
  simp only [lasting, present, observed]
  rfl

/-- A reconcile that refreshes asks only where the run is connected to. -/
theorem connected_reconcile (refreshes : task run = .refresh) :
    Only (Question.Connected run) (reconcile run {}).run := by
  rw [reconcile_run_of_refresh refreshes]
  refine fun past => ⟨nofun, fun started => ?_⟩
  refine only_bind connected_refresh (fun action => ?_) _
  refine only_bind (only_lift (only_question nofun)) fun now => ?_
  refine only_bind (only_lift (only_question nofun)) fun _ => ?_
  exact only_bind (only_lift (only_question nofun)) fun _ => only_done _

end Connecting

/-- What is entered as said at the manager was said at some endpoint. -/
theorem mem_of_managed {exchange : Exchange Session.Question Session.Answer}
    (said : exchange ∈ (Ledger.ofHistory past).managed) :
    ∃ endpoint, ⟨.manager endpoint exchange.question, exchange.answer⟩ ∈ past := by
  induction past using List.reverseRecOn with
  | nil => cases said
  | append_singleton past last inductionHypothesis =>
    have earlier : exchange ∈ (Ledger.ofHistory past).managed →
        ∃ endpoint, ⟨.manager endpoint exchange.question, exchange.answer⟩ ∈ past ++ [last] := by
      intro said
      obtain ⟨endpoint, member⟩ := inductionHypothesis said
      exact ⟨endpoint, List.mem_append_left _ member⟩
    rw [Ledger.ofHistory_snoc] at said
    obtain ⟨asked, answer⟩ := last
    cases asked with
    | manager endpoint question =>
      rcases List.mem_append.1 said with said | said
      · exact earlier said
      · obtain rfl := List.mem_singleton.1 said
        exact ⟨endpoint, List.mem_append_right _ (List.mem_singleton_self _)⟩
    | store request => cases request <;> exact earlier said
    | claim url => cases answer <;> exact earlier said
    | release _ | buildClient _ | newRunId | timestamp | clock | measure _ | forgetFailures _ =>
      exact earlier said

-- A reconcile is known by what it obeys; to compute it would be to compute on texts.
attribute [local irreducible] reconcile

/-- In the refresh of a run that is not exposed no request can be sent to list the groups. -/
theorem perform_of_not_exposed {endpoint : Endpoint} {question : Session.Question}
    (refreshes : task run = .refresh) (unexposed : ¬ Exposed run)
    (asks : Asks (reconcile run {}).run past (.manager endpoint question)) (pages : Nat) :
    ∃ error, endpoint.perform pages (.listGroups none) = .done (.error error) := by
  have connects : Connects run endpoint :=
    (connected_reconcile refreshes []).permits asks endpoint question rfl
  cases addressed : endpoint.urlOf (Endpoint.route (.listGroups none)) with
  | ok url =>
    refine absurd ⟨refreshes, connects.readable, url, ?_⟩ unexposed
    rw [← addressed]
    exact Endpoint.urlOf_congr connects.address.symm
  | error error => exact Endpoint.perform_listGroups_of_error pages addressed

/-- In such a refresh the groups have not been listed. -/
theorem listing_fails (refreshes : task run = .refresh) (unexposed : ¬ Exposed run)
    (begun : Reaches (reconcile run {}).run past rest) (transported : Transported past) :
    ∀ answer, ⟨.call (.listGroups none), answer⟩ ∈ (Ledger.ofHistory past).managed →
      ∃ error, answer = .error error := by
  intro answer said
  obtain ⟨endpoint, member⟩ := mem_of_managed said
  obtain ⟨pages, outcomes, converses⟩ := transported endpoint (.listGroups none) answer member
  obtain ⟨earlier, later, rfl⟩ := List.append_of_mem member
  obtain ⟨error, fails⟩ := perform_of_not_exposed refreshes unexposed begun.asks pages
  rw [fails] at converses
  cases converses
  exact ⟨error, rfl⟩

namespace Moment

variable {moment after : Moment}

/-- The reconcile on its way is about to make a call for which a request is sent. -/
def Sends (moment : Moment) : Prop :=
  ∃ run past endpoint call resume pages request next,
    moment.worker = some ⟨run, past, .ask (.manager endpoint (.call call)) resume⟩ ∧
      endpoint.perform pages call = .ask request next

/-- A run that is not accepted is only talked about with its manager when it is refreshed. -/
theorem refreshes_of_managing {endpoint : Endpoint} {asked : Session.Question}
    (faulty : run.fault?.isSome = true)
    (undertaking : Undertaking run (task run) past (.manager endpoint asked)) :
    task run = .refresh := by
  cases assigned : task run with
  | refresh => rfl
  | finalize =>
    rw [assigned] at undertaking
    rcases undertaking with ⟨_, quiet⟩
    cases quiet
  | execute =>
    rw [assigned] at undertaking
    cases undertaking with
    | quiet _ quiet => cases quiet
    | drive _ _ starts _ => simp [starts.sound] at faulty
    | collect _ _ starts _ _ => simp [starts.sound] at faulty

/-- What is written of a run that is not accepted where it is not refreshed is that it was rejected,
and nothing was written before. -/
theorem rejects_of_writing {target other : String} {status : RunStatus}
    (faulty : run.fault?.isSome = true) (rests : task run ≠ .refresh)
    (undertaking : Undertaking run (task run) past (.store (.writeStatus target other status))) :
    (Ledger.ofHistory past).written = [] ∧
      ∃ fault time, status = run.rejectedStatus fault time := by
  cases assigned : task run with
  | refresh => exact absurd assigned rests
  | finalize =>
    rw [assigned] at undertaking
    rcases undertaking with ⟨_, quiet⟩
    cases quiet
  | execute =>
    rw [assigned] at undertaking
    cases undertaking with
    | quiet _ quiet => cases quiet
    | @reject fault time known _ => exact ⟨by rw [known], fault, time, rfl⟩
    | start _ _ starts => simp [starts.sound] at faulty
    | finish _ starts _ _ => simp [starts.sound] at faulty

/-- A rejection leaves the outputs as they were. -/
theorem outputs_rejectedStatus {fault : SpecFault} {time : String} {shown : RunStatus}
    (which : shown = run.recorded ∨ shown = {}) :
    ((run.rejectedStatus fault time).laidOver shown).outputs = run.recorded.outputs := by
  have plan : (Json.listed? run.recorded.upgradePlan).getD shown.upgradePlan =
      run.recorded.upgradePlan := getD_of_which RunStatus.upgradePlan rfl which
  have state : (Json.listed? run.recorded.state).getD shown.state = run.recorded.state :=
    getD_of_which RunStatus.state rfl which
  simp only [RunStatus.outputs, RunStatus.laidOver, RunObject.rejectedStatus, plan, state]

/-- A run that is not accepted and not exposed is left in peace. -/
theorem spared_of_not_exposed (sound : Sound moment)
    (working : moment.worker = some ⟨run, past, rest⟩) (faulty : run.fault?.isSome = true)
    (unexposed : ¬ Exposed run) (transported : Transported past) :
    ¬ moment.Sends ∧
      ∀ after, Step moment after → after.recorded.outputs = moment.recorded.outputs := by
  have attended : Attended moment.members ⟨run, past, rest⟩ := sound _ working
  constructor
  · rintro ⟨run, past, endpoint, call, resume, pages, request, next, same, sends⟩
    obtain ⟨rfl, rfl, rfl⟩ := Worker.mk.inj (Option.some.inj (working.symm.trans same))
    have refreshes : task run = .refresh := refreshes_of_managing faulty attended.undertaking
    have undertaking := attended.undertaking
    rw [refreshes] at undertaking
    rcases undertaking with ⟨_, quiet⟩ | ⟨_, known, asks⟩
    · cases quiet
    · have unlisted := listing_fails refreshes unexposed attended.begun transported
      rw [known] at unlisted
      cases Outputs.listing_of_asks asks unlisted
      obtain ⟨error, fails⟩ :=
        perform_of_not_exposed refreshes unexposed ⟨_, attended.begun⟩ pages
      rw [fails] at sends
      cases sends
  · intro after step
    rcases recorded_of_step sound step with same | records
    · rw [same]
    · cases records with
      | @write _ _ _ _ status shown resume reply members busy _ which laid =>
        obtain ⟨rfl, rfl, rfl⟩ := Worker.mk.inj (Option.some.inj (working.symm.trans busy))
        by_cases refreshes : task run = .refresh
        · have undertaking := attended.undertaking
          rw [refreshes] at undertaking
          rcases undertaking with ⟨_, quiet⟩ | _ | ⟨known, collects⟩
          · cases quiet
          · have unlisted := listing_fails refreshes unexposed attended.begun transported
            rw [known] at unlisted
            exact (Outputs.not_collects collects unlisted).elim
        · obtain ⟨written, fault, time, rfl⟩ :=
            rejects_of_writing faulty refreshes attended.undertaking
          obtain ⟨stored, read, -, stands, -⟩ := attended.writing
          have recorded : moment.recorded = run.recorded := by
            rw [written] at stands
            simp [Moment.recorded, read, stands.of_nil]
          rw [recorded] at which ⊢
          simp only [Moment.recorded, laid, Option.getD_some]
          exact outputs_rejectedStatus which

/-- The refresh of an exposed run comes to list the groups. -/
theorem reaches_of_exposed (exposed : Exposed run) : ∃ past endpoint resume,
    Reaches (reconcile run {}).run past
        (.ask (.manager endpoint (.call (.listGroups none))) resume) ∧
      endpoint.baseUrl = Text.trimSlashes run.spec.manager.url ∧ Transported past := by
  let credentials := run.spec.manager.credentials
  obtain ⟨secret, username, password, decoded, hasUsername, hasPassword⟩ :=
    Secret.text_storedUnder credentials.usernameKey credentials.passwordKey
  have connected : Converses (connect run).run _ _ :=
    connect_converses exposed.readable decoded hasUsername hasPassword
  obtain ⟨resume, refreshing⟩ : ∃ resume, Reaches (refresh run).run
      [⟨.store (.getSecret (space run) credentials.name),
        .ok (Secret.storedUnder credentials.usernameKey credentials.passwordKey)⟩,
        ⟨.buildClient run.spec.manager.insecureSkipVerify, .ok ()⟩]
      (.ask (.manager (.ofUrl run.spec.manager.url username password
        run.spec.manager.insecureSkipVerify) (.call (.listGroups none))) resume) :=
    ⟨_, connected.reaches_bind⟩
  rw [reconcile_run_of_refresh exposed.refreshes]
  refine ⟨_, _, _, .ask (0 : Nat) (refreshing.andThen _), rfl, ?_⟩
  intro endpoint call answer member
  simp only [List.mem_cons, List.not_mem_nil, or_false] at member
  rcases member with same | same | same <;> cases same

/-- An exposed run has a reconcile that sends a request. -/
theorem sends_of_exposed {members : Json.Members} (exposed : Exposed run)
    (read : RunObject.ofJson? (.object members) = some run) :
    ∃ moment past rest, Leads ⟨members, none⟩ moment ∧ moment.worker = some ⟨run, past, rest⟩ ∧
      Transported past ∧ moment.Sends := by
  obtain ⟨past, endpoint, resume, begun, address, transported⟩ := reaches_of_exposed exposed
  have leads : Leads ⟨members, none⟩ ⟨past.foldl serve members, some ⟨run, past, _⟩⟩ :=
    (leads_of_reaches begun).head (.start rfl read)
  obtain ⟨url, addressed⟩ := exposed.addressed
  rw [← Endpoint.urlOf_congr address] at addressed
  obtain ⟨request, next, sends⟩ := Endpoint.perform_listGroups_of_ok addressed
  exact ⟨_, past, _, leads, rfl, transported,
    run, past, endpoint, _, resume, 1, request, next, rfl, sends⟩

/-- Whatever happens to a stored run that is not accepted, no reconcile of it sends a request to its
manager or changes its recorded outputs, exactly if it is not exposed: if it is not refreshed, or
its credentials cannot be asked for, or no request can be sent to the URL of its manager. -/
theorem rejected_spared_iff {members : Json.Members}
    (read : RunObject.ofJson? (.object members) = some run) (faulty : run.fault?.isSome = true) :
    (∀ moment, Leads ⟨members, none⟩ moment → ∀ past rest,
      moment.worker = some ⟨run, past, rest⟩ → Transported past →
        ¬ moment.Sends ∧
          ∀ after, Step moment after → after.recorded.outputs = moment.recorded.outputs) ↔
      ¬ Exposed run := by
  constructor
  · intro spared exposed
    obtain ⟨moment, past, rest, leads, working, transported, sends⟩ :=
      sends_of_exposed exposed read
    exact (spared moment leads past rest working transported).1 sends
  · intro unexposed moment leads past rest working transported
    have sound : Sound moment := sound_of_reachable ⟨members, leads⟩
    exact spared_of_not_exposed sound working faulty unexposed transported

/-- The members of a stored run whose components may take no time to be upgraded. -/
def untimedMembers : Json.Members :=
  [("metadata", .object [("name", "upgrade"), ("generation", Json.nat 1),
      ("finalizers", .array ["nsx-upgrade.smoketurner.com/finalizer"])]),
    ("spec", .object [("upgradePrepareReadyId", "ready"),
      ("manager", .object [("url", "http://nsx.test"),
        ("credentialsSecret", .object [("name", "admin")])]),
      ("timeout", Json.nat 0)])]

/-- The same as it is read. -/
def untimed : RunObject where
  metadata := { name := some "upgrade", generation := some 1, finalizers := some [finalizer] }
  spec := { (RunObject.plain "http://nsx.test").spec with wait := { timeout := 0 } }

/-- The members of the untimed run are read as it. -/
theorem ofJson?_untimedMembers : RunObject.ofJson? (.object untimedMembers) = some untimed := by
  decide +kernel

/-- A run that has just been stored is left in peace. -/
theorem rejected_spared_iff_untimed :
    untimed.fault?.isSome = true ∧
      ∀ moment, Leads ⟨untimedMembers, none⟩ moment → ∀ past rest,
        moment.worker = some ⟨untimed, past, rest⟩ → Transported past → ¬ moment.Sends := by
  have faulty : untimed.fault?.isSome = true := by decide +kernel
  have unexposed : ¬ Exposed untimed := by
    intro exposed
    have executes : task untimed = .execute := by decide +kernel
    cases executes.symm.trans exposed.refreshes
  have spared := (rejected_spared_iff ofJson?_untimedMembers faulty).2 unexposed
  exact ⟨faulty, fun moment leads past rest working transported =>
    (spared moment leads past rest working transported).1⟩

/-- The members of the run once it was rejected. -/
def rejectedMembers : Json.Members :=
  ((reconcile untimed {}).run.play answerReconcile).1.foldl serve untimedMembers

/-- The same as it is read. -/
def untimedRejected : RunObject :=
  { untimed with
    status := some (untimed.rejectedStatus (.belowMinimum "timeout" 0) "time") }

/-- What a reconcile is answered where there is a group. -/
def answerListing : (asked : Question) → Answer asked
  | .manager _ (.call (.listGroups _)) => .ok [({ id := "rack", type := "EDGE" } : UnitGroup)]
  | .manager _ (.call (.getGroupStatus _)) => .ok ([] : List GroupStatus)
  | asked => answerReconcile asked

/-- Once the rejection of a run is recorded, its next reconcile sends a request to its manager, and
it may store a plan. -/
theorem not_spared_untimedRejected :
    Leads ⟨untimedMembers, none⟩ ⟨rejectedMembers, none⟩ ∧
      RunObject.ofJson? (.object rejectedMembers) = some untimedRejected ∧
      untimedRejected.fault?.isSome = true ∧
      (∃ moment past rest, Leads ⟨rejectedMembers, none⟩ moment ∧
        moment.worker = some ⟨untimedRejected, past, rest⟩ ∧ Transported past ∧ moment.Sends) ∧
      untimedRejected.recorded.upgradePlan = [] ∧
      ∃ moment past rest, Leads ⟨rejectedMembers, none⟩ moment ∧
        moment.worker = some ⟨untimedRejected, past, rest⟩ ∧
        moment.recorded.upgradePlan.map PlanEntry.id = ["rack"] := by
  have read : RunObject.ofJson? (.object rejectedMembers) = some untimedRejected := by
    decide +kernel
  have faulty : untimedRejected.fault?.isSome = true := by decide +kernel
  have addressed : ((Endpoint.ofUrl untimedRejected.spec.manager.url "" "" false).urlOf
      (Endpoint.route (.listGroups none))).isOk = true := by
    decide +kernel
  have exposed : Exposed untimedRejected := by
    refine ⟨by decide +kernel, by decide +kernel, ?_⟩
    cases found : (Endpoint.ofUrl untimedRejected.spec.manager.url "" "" false).urlOf
        (Endpoint.route (.listGroups none)) with
    | ok url => exact ⟨url, rfl⟩
    | error _ => simp [found, Except.isOk, Except.toBool] at addressed
  have rejects := converses_iff_reaches_done.1
    (converses_play answerReconcile (reconcile untimed {}).run)
  have rejected : Leads ⟨untimedMembers, none⟩ ⟨rejectedMembers, none⟩ :=
    ((leads_of_reaches rejects).head (.start rfl ofJson?_untimedMembers)).tail .leave
  have refreshes := converses_iff_reaches_done.1
    (converses_play answerListing (reconcile untimedRejected {}).run)
  have planned : (Moment.mk (((reconcile untimedRejected {}).run.play answerListing).1.foldl serve
      rejectedMembers) none).recorded.upgradePlan.map PlanEntry.id = ["rack"] := by
    decide +kernel
  exact ⟨rejected, read, faulty, sends_of_exposed exposed read, rfl, _, _, _,
    (leads_of_reaches refreshes).head (.start rfl read), rfl, planned⟩

end Moment

end Reconcile

end FabricUpgrade
