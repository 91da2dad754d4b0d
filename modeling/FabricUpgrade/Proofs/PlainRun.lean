import FabricUpgrade.Proofs.Stages

/-!
# How a plain run begins to be driven

A plain run is one of which only the URL of its manager and its recorded status matter.  If its URL
is accepted, its manager can be claimed and its store answers well, it is recorded as running and
its upgrade begins.
-/

namespace FabricUpgrade

open Program

/-- A run of which only the URL of its manager and the recorded status matter. -/
def RunObject.plain (url : String) (status : Option RunStatus := none) : RunObject where
  metadata := { name := some "upgrade", finalizers := some [Reconcile.finalizer] }
  spec := {
    upgradePrepareReadyId := "ready"
    manager := { url, credentials := { name := "admin" } } }
  status

/-- The members of a stored plain run, without a status. -/
def RunObject.plainMembers : Json.Members :=
  [("metadata", .object [("name", "upgrade"),
      ("finalizers", .array ["nsx-upgrade.smoketurner.com/finalizer"])]),
    ("spec", .object [("upgradePrepareReadyId", "ready"),
      ("manager", .object [("url", "http://nsx.test"),
        ("credentialsSecret", .object [("name", "admin")])])])]

/-- The members of the plain run are read as it. -/
theorem RunObject.ofJson?_plainMembers :
    RunObject.ofJson? (.object plainMembers) = some (plain "http://nsx.test") := by
  decide +kernel

/-- The store's answer when the credentials of a plain run are asked for. -/
def Secret.plainStored : Json :=
  .object [("data", .object [("username", .string "YQ=="), ("password", .string "YQ==")])]

/-- A secret in which there is a text under two keys. -/
def Secret.storedUnder (first second : String) : Json :=
  .object [("data", .object [(first, .string "YQ=="), (second, .string "YQ==")])]

/-- A secret that holds two keys is read and has both texts. -/
theorem Secret.text_storedUnder (first second : String) : ∃ secret username password,
    Secret.ofJson? (Secret.storedUnder first second) = some secret ∧
      secret.text first = .ok username ∧ secret.text second = .ok password := by
  have bytes : Secret.bytesOfJson? (.string "YQ==") = some [97] := by decide +kernel
  have read : Secret.ofJson? (Secret.storedUnder first second) =
      some { data := [(first, [97]), (second, [97])] } := by
    simp [Secret.ofJson?, Secret.storedUnder, Json.objectRecord?, Json.Record.withDefault,
      Json.Record.optional, Metadata.checked, Json.entries?, List.lookup_cons, bytes]
  have readable : (Text.Utf8.decode [97]).isOk = true := by decide +kernel
  obtain ⟨text, decoded⟩ : ∃ text, Text.Utf8.decode [97] = .ok text := by
    cases decoded : Text.Utf8.decode [97] with
    | ok text => exact ⟨text, rfl⟩
    | error _ => simp [decoded, Except.isOk, Except.toBool] at readable
  have held : ∀ key, key = first ∨ key = second →
      List.lookup key [(first, ([97] : Text.Bytes)), (second, [97])] = some [97] := by
    intro key which
    cases same : key == first with
    | true => simp [List.lookup_cons, same]
    | false =>
      obtain rfl : key = second := which.resolve_left (by simpa using same)
      simp [List.lookup_cons, same]
  refine ⟨_, text, text, read, ?_, ?_⟩
  · simp [Secret.text, held first (.inl rfl), decoded]
  · simp [Secret.text, held second (.inr rfl), decoded]

/-- The secret of the plain run is read and has a user and a password. -/
theorem Secret.text_plainStored : ∃ secret username password,
    Secret.ofJson? Secret.plainStored = some secret ∧ secret.text "username" = .ok username ∧
      secret.text "password" = .ok password :=
  Secret.text_storedUnder "username" "password"

/-- Whether the manager of a spec is accepted is up to its URL, if the credentials are named. -/
theorem Spec.managerFault?_congr {spec other : Spec} (accepted : spec.managerFault? = none)
    (same : spec.manager.url = other.manager.url)
    (named : Text.isBlankText other.manager.credentials.name = false) :
    other.managerFault? = none := by
  unfold managerFault? at accepted ⊢
  rw [← same]
  simp only [named]
  by_cases empty : (Text.trim spec.manager.url).isEmpty = true
  · simp [empty] at accepted
  · by_cases foreign : (!("https://".toList.isPrefixOf (Text.trim spec.manager.url).toList ||
        "http://".toList.isPrefixOf (Text.trim spec.manager.url).toList)) = true
    · simp only [empty, foreign] at accepted
      simp at accepted
    · simp only [empty, foreign]
      simp

/-- A plain run is accepted if its URL is accepted in some run. -/
theorem RunObject.fault?_plain {run : RunObject} (accepted : run.fault? = none) :
    (RunObject.plain run.spec.manager.url).fault? = none := by
  have spec : run.spec.fault? = none := by
    cases fault : run.spec.fault? with
    | none => rfl
    | some _ => simp [RunObject.fault?, fault] at accepted
  have manager : run.spec.managerFault? = none := by
    by_cases blank : Text.isBlankText run.spec.upgradePrepareReadyId = true
    · simp [Spec.fault?, blank] at spec
    · simp [Spec.fault?, blank, List.findSome?] at spec
      cases fault : run.spec.managerFault? with
      | none => rfl
      | some _ => simp [fault] at spec
  have prepared : Text.isBlankText "ready" = false := by decide
  have named : Text.isBlankText "admin" = false := by decide
  have plainManager : (RunObject.plain run.spec.manager.url).spec.managerFault? = none :=
    Spec.managerFault?_congr manager rfl named
  have plainWait : (RunObject.plain run.spec.manager.url).spec.waitFault? = none := by
    simp [Spec.waitFault?, RunObject.plain, SpecFault.leastSeconds, SpecFault.mostSeconds]
  have plainSpec : (RunObject.plain run.spec.manager.url).spec.fault? = none := by
    unfold Spec.fault?
    rw [plainManager, plainWait]
    simp [RunObject.plain, prepared, Spec.idFault?, Spec.idFaultAfter?]
  simp only [RunObject.fault?, plainSpec]
  rfl

namespace Reconcile

section Conversations

variable {run : RunObject} {value : Json}

/-- A request that can be sent is asked. -/
theorem askStore_of_isSendable {request : StoreRequest} (sendable : request.isSendable = true) :
    askStore request = .ask (.store request) .done := by
  simp only [askStore, sendable]
  rfl

/-- The credentials are read if they are there and are texts. -/
theorem readCredentials_converses {secret : Secret} {username password : String}
    (sendable : (StoreRequest.getSecret (space run) run.spec.manager.credentials.name).isSendable =
      true)
    (decoded : Secret.ofJson? value = some secret)
    (hasUsername : secret.text run.spec.manager.credentials.usernameKey = .ok username)
    (hasPassword : secret.text run.spec.manager.credentials.passwordKey = .ok password) :
    Converses (readCredentials run).run
      [⟨.store (.getSecret (space run) run.spec.manager.credentials.name), .ok value⟩]
      (.ok (username, password)) := by
  unfold readCredentials
  dsimp only
  rw [askStore_of_isSendable sendable]
  refine .ask _ ?_
  change Converses (ExceptT.bindCont _ (Except.ok (Except.ok value))) [] _
  simp only [ExceptT.bindCont, decoded, hasUsername, hasPassword]
  exact .done _

/-- With the credentials a manager is reached if a client can be built. -/
theorem connect_converses {secret : Secret} {username password : String}
    (sendable : (StoreRequest.getSecret (space run) run.spec.manager.credentials.name).isSendable =
      true)
    (decoded : Secret.ofJson? value = some secret)
    (hasUsername : secret.text run.spec.manager.credentials.usernameKey = .ok username)
    (hasPassword : secret.text run.spec.manager.credentials.passwordKey = .ok password) :
    Converses (connect run).run
      [⟨.store (.getSecret (space run) run.spec.manager.credentials.name), .ok value⟩,
        ⟨.buildClient run.spec.manager.insecureSkipVerify, .ok ()⟩]
      (.ok (.ofUrl run.spec.manager.url username password
        run.spec.manager.insecureSkipVerify)) := by
  refine converses_bind (readCredentials_converses sendable decoded hasUsername hasPassword) ?_
  exact .ask _ (.done _)

/-- A request whose answer can be decoded returns what is read of it. -/
theorem fromStore_converses {α : Type} {decode : Json → Option α} {request : StoreRequest}
    {read : α} (sendable : request.isSendable = true) (decoded : decode value = some read) :
    Converses (fromStore decode request).run
      [⟨.store request, (.ok value : Except StoreError Json)⟩] (.ok read) := by
  rw [fromStore_run sendable]
  refine .ask _ ?_
  simp only [readAnswer, decoded]
  exact .done _

/-- A status that can be written is written. -/
theorem writeStatus_converses {status : RunStatus} (canWrite : CanWrite run)
    (decoded : (RunObject.ofJson? value).isSome = true) :
    Converses (writeStatus run status).run
      [⟨.store (.writeStatus (space run) (name run) status), (.ok value : Except StoreError Json)⟩]
      (.ok ()) := by
  obtain ⟨read, decoded⟩ := Option.isSome_iff_exists.1 decoded
  exact converses_bind (fromStore_converses (canWrite status) decoded) (.done _)

/-- The start of a run that was never started is recorded with a new id. -/
theorem recordStart_converses (runId time : String) (fresh : run.recorded.runId = none)
    (canWrite : CanWrite run) (decoded : (RunObject.ofJson? value).isSome = true) :
    Converses (recordStart run).run [⟨.newRunId, runId⟩, ⟨.timestamp, time⟩,
      ⟨.store (.writeStatus (space run) (name run) (run.runningStatus runId time)), .ok value⟩]
      (.ok (run.runningStatus runId time)) := by
  unfold recordStart
  simp only [fresh, nextPhase_starting]
  refine .ask _ ?_
  refine .ask _ ?_
  exact converses_bind (writeStatus_converses canWrite decoded) (.done _)

/-- A notice that can be sent is published. -/
theorem publish_converses (value : Json) {isWarning : Bool} {reason action note : String}
    (sendable : (StoreRequest.publish (space run)
      ⟨isWarning, reason, action, note, run.metadata.name⟩).isSendable = true) :
    Converses (publish run isWarning reason action note)
      [⟨.store (.publish (space run) ⟨isWarning, reason, action, note, run.metadata.name⟩),
        .ok value⟩] () := by
  unfold publish
  rw [askStore_of_isSendable sendable]
  refine .ask _ ?_
  exact .done _

end Conversations

section Plain

variable {url : String} {status : Option RunStatus}

/-- What the reconcile of a plain run has been through since it claimed its manager when it begins
to drive the upgrade. -/
def plainStart (url : String) (status : Option RunStatus) : History :=
  [⟨.store (.getSecret "default" "admin"), .ok Secret.plainStored⟩,
    ⟨.buildClient false, .ok ()⟩, ⟨.newRunId, "id"⟩, ⟨.timestamp, "time"⟩,
    ⟨.store (.writeStatus "default" "upgrade"
        ((RunObject.plain url status).runningStatus "id" "time")),
      .ok (.object RunObject.plainMembers)⟩,
    ⟨.store (.publish "default" ⟨false, "RunStarted", "Upgrade",
      s!"Upgrading fabric managed by {url}", some "upgrade"⟩), .ok .null⟩,
    ⟨.clock, (0 : Nat)⟩]

/-- The execution of a plain run under its claim comes to where it would stop. -/
theorem executeClaimed_plain_reaches (fresh : (RunObject.plain url status).recorded.runId = none) :
    ∃ endpoint resume, Reaches (executeClaimed (.plain url status) {}).run (plainStart url status)
      (.ask (.manager endpoint .stopRequested) resume) := by
  have readable : (StoreRequest.getSecret "default" "admin").isSendable = true := by
    decide +kernel
  have writable : (StoreRequest.writeStatus "default" "upgrade" {}).isSendable = true := by
    decide +kernel
  have publishable :
      (StoreRequest.publish "default" ⟨false, "", "", "", none⟩).isSendable = true := by
    decide +kernel
  have stored : (RunObject.ofJson? (.object RunObject.plainMembers)).isSome = true := by
    rw [RunObject.ofJson?_plainMembers]
    rfl
  have canWrite : CanWrite (.plain url status) := fun _ => writable
  obtain ⟨secret, username, password, decoded, hasUsername, hasPassword⟩ := Secret.text_plainStored
  have connected : Converses (connect (.plain url status)).run _ _ :=
    connect_converses readable decoded hasUsername hasPassword
  have started : Converses (recordStart (.plain url status)).run _ _ :=
    recordStart_converses "id" "time" fresh canWrite stored
  have published : Converses (publish (.plain url status) false "RunStarted" "Upgrade"
      s!"Upgrading fabric managed by {url}") _ _ := publish_converses .null publishable
  have timed : Converses clock [⟨.clock, (0 : Nat)⟩] (0 : Nat) := .ask _ (.done _)
  exact ⟨_, _, connected.reaches_bind.trans (started.reaches_bind.trans
    ((converses_lift published).reaches_bind.trans (converses_lift timed).reaches_bind))⟩

/-- Whatever the body is, it begins right after the claim is made. -/
theorem claiming_reaches {body : Reconciling Action} {exchanges : History}
    {rest : Reconcile (Except ReconcileError Action)} (begun : Reaches body.run exchanges rest) :
    Reaches (claiming url body).run (⟨.claim url, true⟩ :: exchanges)
      (rest.andThen fun result => (release url).andThen fun _ => .done result) :=
  .ask _ (begun.andThen _)

/-- The execution of an accepted plain run comes to where it would stop. -/
theorem execute_plain_reaches (sound : (RunObject.plain url status).fault? = none)
    (fresh : (RunObject.plain url status).recorded.runId = none) :
    ∃ endpoint resume, Reaches (execute (.plain url status) {}).run
      (⟨.claim url, true⟩ :: plainStart url status)
      (.ask (.manager endpoint .stopRequested) resume) := by
  obtain ⟨endpoint, resume, begun⟩ := executeClaimed_plain_reaches fresh
  unfold execute
  rw [sound]
  exact ⟨endpoint, _, claiming_reaches begun⟩

attribute [local irreducible] execute

/-- The reconcile of a plain run begins to drive the upgrade as soon as its manager is claimed. -/
theorem reconcile_plain_reaches (sound : (RunObject.plain url status).fault? = none)
    (fresh : (RunObject.plain url status).recorded.runId = none) :
    ∃ endpoint resume, Reaches (reconcile (.plain url status) {}).run
      (⟨.clock, (0 : Nat)⟩ :: ⟨.claim url, true⟩ :: plainStart url status)
      (.ask (.manager endpoint .stopRequested) resume) := by
  obtain ⟨endpoint, resume, claimed⟩ := execute_plain_reaches sound fresh
  exact ⟨endpoint, _, .ask _ (claimed.andThen _)⟩

end Plain

end Reconcile

end FabricUpgrade
