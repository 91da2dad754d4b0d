import FabricUpgrade.Operator.Store
import FabricUpgrade.Proofs.Codec

/-!
# What writing a status leaves behind

A status is written as a merge patch, and what there is nothing of is left out of it.  So what comes
to be recorded is the status laid over the one that was recorded before: `RunStatus.laidOver`.  It
is the status itself exactly if the status covers the old one, that is, has something wherever the
old one has something.
-/

namespace FabricUpgrade

/-- A phase is written as a plain value. -/
theorem Phase.isPlain_toJson (phase : Phase) : phase.toJson.isPlain = true :=
  rfl

namespace RunStatus

/-- The status can be written and read back. -/
structure Fits (status : RunStatus) : Prop where
  plan : ∀ entry ∈ status.upgradePlan, SortedMap.Ordered entry.extendedConfig
  generation : ∀ generation ∈ status.observedGeneration, Json.IsInt64 generation
  conditions : ∀ condition ∈ status.conditions, condition.Fits

/-- The status laid over another one, which shows where there is nothing. -/
def laidOver (status base : RunStatus) : RunStatus where
  phase := status.phase
  runId := status.runId.or base.runId
  upgradePrepareReadyId := status.upgradePrepareReadyId.or base.upgradePrepareReadyId
  upgradePlan := (Json.listed? status.upgradePlan).getD base.upgradePlan
  state := (Json.listed? status.state).getD base.state
  errorMessage := status.errorMessage.or base.errorMessage
  observedGeneration := status.observedGeneration.or base.observedGeneration
  lastRunAt := status.lastRunAt.or base.lastRunAt
  conditions := (Json.listed? status.conditions).getD base.conditions

/-- The other status shows nowhere. -/
structure Covers (status base : RunStatus) : Prop where
  runId : status.runId = none → base.runId = none
  upgradePrepareReadyId : status.upgradePrepareReadyId = none → base.upgradePrepareReadyId = none
  upgradePlan : status.upgradePlan = [] → base.upgradePlan = []
  state : status.state = [] → base.state = []
  errorMessage : status.errorMessage = none → base.errorMessage = none
  observedGeneration : status.observedGeneration = none → base.observedGeneration = none
  lastRunAt : status.lastRunAt = none → base.lastRunAt = none
  conditions : status.conditions = [] → base.conditions = []

/-- What is laid over shows nothing of what is below exactly if it leaves no gap. -/
theorem or_eq_left_iff {α : Type} {datum base : Option α} :
    datum.or base = datum ↔ (datum = none → base = none) := by
  cases datum <;> simp

/-- A list that is laid over shows nothing of the one below exactly if it leaves no gap. -/
theorem getD_listed?_eq_left_iff {α : Type} {values base : List α} :
    (Json.listed? values).getD base = values ↔ (values = [] → base = []) := by
  cases values <;> simp [Json.listed?]

/-- What is laid over comes out exactly if nothing shows of what is below. -/
theorem laidOver_eq_self_iff {status base : RunStatus} :
    status.laidOver base = status ↔ status.Covers base := by
  constructor
  · intro same
    exact
      { runId := or_eq_left_iff.1 (congrArg RunStatus.runId same)
        upgradePrepareReadyId := or_eq_left_iff.1 (congrArg RunStatus.upgradePrepareReadyId same)
        upgradePlan := getD_listed?_eq_left_iff.1 (congrArg RunStatus.upgradePlan same)
        state := getD_listed?_eq_left_iff.1 (congrArg RunStatus.state same)
        errorMessage := or_eq_left_iff.1 (congrArg RunStatus.errorMessage same)
        observedGeneration := or_eq_left_iff.1 (congrArg RunStatus.observedGeneration same)
        lastRunAt := or_eq_left_iff.1 (congrArg RunStatus.lastRunAt same)
        conditions := getD_listed?_eq_left_iff.1 (congrArg RunStatus.conditions same) }
  · intro covers
    simp only [laidOver, or_eq_left_iff.2 covers.runId,
      or_eq_left_iff.2 covers.upgradePrepareReadyId,
      getD_listed?_eq_left_iff.2 covers.upgradePlan, getD_listed?_eq_left_iff.2 covers.state,
      or_eq_left_iff.2 covers.errorMessage, or_eq_left_iff.2 covers.observedGeneration,
      or_eq_left_iff.2 covers.lastRunAt, getD_listed?_eq_left_iff.2 covers.conditions]

/-- The status is what the record says. -/
structure ReadFrom (record : Json.Record) (status : RunStatus) : Prop where
  phase : record.withDefault "phase" .pending Phase.ofJson? = some status.phase
  runId : record.optional "runId" Json.string? = some status.runId
  upgradePrepareReadyId :
    record.optional "upgradePrepareReadyId" Json.string? = some status.upgradePrepareReadyId
  upgradePlan :
    record.withDefault "upgradePlan" [] (Json.list? PlanEntry.ofJson?) = some status.upgradePlan
  state : record.withDefault "state" [] (Json.list? ComponentState.ofJson?) = some status.state
  errorMessage : record.optional "errorMessage" Json.string? = some status.errorMessage
  observedGeneration :
    record.optional "observedGeneration" Json.int64? = some status.observedGeneration
  lastRunAt : record.optional "lastRunAt" Json.string? = some status.lastRunAt
  conditions :
    record.withDefault "conditions" [] (Json.list? Condition.ofJson?) = some status.conditions

/-- The names of the fields of a status. -/
def fieldNames : List String :=
  ["phase", "runId", "upgradePrepareReadyId", "upgradePlan", "state", "errorMessage",
    "observedGeneration", "lastRunAt", "conditions"]

/-- A value is read as a status exactly if it is a record that says what the status is. -/
theorem ofJson?_eq_some_iff {value : Json} {status : RunStatus} :
    RunStatus.ofJson? value = some status ↔
      ∃ record, Json.record? fieldNames value = some record ∧ status.ReadFrom record := by
  simp only [ofJson?, Option.bind_eq_bind, Option.bind_eq_some_iff, Option.pure_def,
    Option.some.injEq]
  refine exists_congr fun record => and_congr_right fun _ => ⟨?_, fun read => ?_⟩
  · rintro ⟨phase, readPhase, runId, readRunId, ready, readReady, plan, readPlan, state, readState,
      message, readMessage, generation, readGeneration, lastRunAt, readLastRunAt, conditions,
      readConditions, rfl⟩
    exact ⟨readPhase, readRunId, readReady, readPlan, readState, readMessage, readGeneration,
      readLastRunAt, readConditions⟩
  · exact ⟨_, read.phase, _, read.runId, _, read.upgradePrepareReadyId, _, read.upgradePlan, _,
      read.state, _, read.errorMessage, _, read.observedGeneration, _, read.lastRunAt, _,
      read.conditions, rfl⟩

/-- The numbers of a status that was read fit. -/
theorem fits_of_ofJson? {value : Json} {status : RunStatus}
    (read : RunStatus.ofJson? value = some status) : status.Fits := by
  obtain ⟨record, -, read⟩ := ofJson?_eq_some_iff.1 read
  exact
    { plan := Json.Record.withDefault_sound (by simp)
        (fun _ _ => Json.forall_mem_of_list? PlanEntry.ordered_of_ofJson?) read.upgradePlan
      generation := Json.Record.optional_sound (fun _ _ => Json.isInt64_of_int64?)
        read.observedGeneration
      conditions := Json.Record.withDefault_sound (by simp)
        (fun _ _ => Json.forall_mem_of_list? Condition.fits_of_ofJson?) read.conditions }

/-- The members that a status is written as. -/
def members (status : RunStatus) : Json.Members :=
  Json.memberOfOption "phase" Phase.toJson (some status.phase)
    ++ Json.memberOfOption "runId" .string status.runId
    ++ Json.memberOfOption "upgradePrepareReadyId" .string status.upgradePrepareReadyId
    ++ Json.memberOfList "upgradePlan" PlanEntry.toJson status.upgradePlan
    ++ Json.memberOfList "state" ComponentState.toJson status.state
    ++ Json.memberOfOption "errorMessage" .string status.errorMessage
    ++ Json.memberOfOption "observedGeneration" Json.int status.observedGeneration
    ++ Json.memberOfOption "lastRunAt" .string status.lastRunAt
    ++ Json.memberOfList "conditions" Condition.toJson status.conditions

/-- What is written under a name. -/
def written? (status : RunStatus) (name : String) : Option Json :=
  match name with
  | "phase" => some status.phase.toJson
  | "runId" => status.runId.map .string
  | "upgradePrepareReadyId" => status.upgradePrepareReadyId.map .string
  | "upgradePlan" =>
    (Json.listed? status.upgradePlan).map fun plan => .array (plan.map PlanEntry.toJson)
  | "state" =>
    (Json.listed? status.state).map fun state => .array (state.map ComponentState.toJson)
  | "errorMessage" => status.errorMessage.map .string
  | "observedGeneration" => status.observedGeneration.map Json.int
  | "lastRunAt" => status.lastRunAt.map .string
  | "conditions" =>
    (Json.listed? status.conditions).map fun conditions => .array (conditions.map Condition.toJson)
  | _ => none

/-- A status is written as the object of its members. -/
theorem toJson_eq (status : RunStatus) : status.toJson = .object status.members :=
  rfl

/-- A list that is written reads back if its items do. -/
theorem list?_of_mem_listed? {α : Type} {decode : Json → Option α} {encode : α → Json}
    {values : List α} (reads : ∀ value ∈ values, decode (encode value) = some value) :
    ∀ listed ∈ Json.listed? values,
      Json.list? decode (.array (listed.map encode)) = some listed := by
  cases values with
  | nil => simp [Json.listed?]
  | cons first rest =>
    rintro _ ⟨⟩
    exact Json.list?_array_map reads

section Written

open Json Record

variable {status base : RunStatus} {target : Members} {record : Record}

/-- After a status was written, a name holds what is written under it, or else what it held. -/
theorem lookup_mergeMembers_members (name : String) :
    (mergeMembers status.members target).lookup name =
      (status.written? name).or (target.lookup name) := by
  unfold written?
  split <;>
    simp_all [members, mergeMembers_append, lookup_mergeMembers_memberOfList,
      lookup_mergeMembers_memberOfOption isPlain_string,
      lookup_mergeMembers_memberOfOption isPlain_int,
      lookup_mergeMembers_memberOfOption Phase.isPlain_toJson]

/-- Each field of a written status is its own, or the old one where there is nothing to write. -/
theorem ReadFrom.laidOver (fits : status.Fits)
    (field : ∀ name, record.field name = target.lookup name) (read : base.ReadFrom record) :
    (status.laidOver base).ReadFrom
      ⟨fun name => (mergeMembers status.members target).lookup name, false⟩ := by
  have written (name : String) : (mergeMembers status.members target).lookup name =
      (status.written? name).or (record.field name) := by
    rw [field, lookup_mergeMembers_members]
  have plan : ∀ plan ∈ listed? status.upgradePlan,
      list? PlanEntry.ofJson? (.array (plan.map PlanEntry.toJson)) = some plan :=
    list?_of_mem_listed? fun entry member => PlanEntry.ofJson?_toJson (fits.plan entry member)
  have state : ∀ state ∈ listed? status.state,
      list? ComponentState.ofJson? (.array (state.map ComponentState.toJson)) = some state :=
    list?_of_mem_listed? fun state _ => state.ofJson?_toJson
  have generation : ∀ generation ∈ status.observedGeneration,
      int64? (int generation) = some generation :=
    fun generation member => int64?_int (fits.generation generation member)
  have conditions : ∀ conditions ∈ listed? status.conditions,
      list? Condition.ofJson? (.array (conditions.map Condition.toJson)) = some conditions :=
    list?_of_mem_listed? fun condition member =>
      Condition.ofJson?_toJson (fits.conditions condition member)
  -- The phase is always written, every other field only where there is something to write.
  exact
    { phase := by
        simp only [Record.withDefault, written "phase"]
        exact status.phase.ofJson?_toJson
      runId := optional_written isPlain_string (written "runId") (fun _ _ => rfl) read.runId
      upgradePrepareReadyId := optional_written isPlain_string (written "upgradePrepareReadyId")
        (fun _ _ => rfl) read.upgradePrepareReadyId
      upgradePlan := withDefault_written (written "upgradePlan") plan read.upgradePlan
      state := withDefault_written (written "state") state read.state
      errorMessage := optional_written isPlain_string (written "errorMessage") (fun _ _ => rfl)
        read.errorMessage
      observedGeneration := optional_written isPlain_int (written "observedGeneration") generation
        read.observedGeneration
      lastRunAt := optional_written isPlain_string (written "lastRunAt") (fun _ _ => rfl)
        read.lastRunAt
      conditions := withDefault_written (written "conditions") conditions read.conditions }

/-- A status is merged member by member. -/
theorem mergePatch_toJson : status.toJson.mergePatch (.object target) =
    .object (mergeMembers status.members target) := by
  simp [toJson_eq, mergePatch, membersOf]

/-- A status that is written over another one reads as laid over it. -/
theorem ofJson?_mergePatch (fits : status.Fits)
    (read : RunStatus.ofJson? (.object target) = some base) :
    RunStatus.ofJson? (status.toJson.mergePatch (.object target)) =
      some (status.laidOver base) := by
  obtain ⟨record, opened, read⟩ := ofJson?_eq_some_iff.1 read
  obtain ⟨-, rfl⟩ := record?_object_eq_some_iff.1 opened
  rw [mergePatch_toJson]
  exact ofJson?_eq_some_iff.2 ⟨_, record?_mergeMembers opened, read.laidOver fits fun _ => rfl⟩

end Written

end RunStatus

namespace RunObject

open Json

/-- The object is what the record says. -/
structure ReadFrom (record : Record) (run : RunObject) : Prop where
  metadata : record.required "metadata" Metadata.ofJson? = some run.metadata
  spec : record.required "spec" Spec.ofJson? = some run.spec
  status : record.nullable "status" RunStatus.ofJson? = some run.status

/-- A value is read as a run exactly if it is a record that says what the run is. -/
theorem ofJson?_eq_some_iff {value : Json} {run : RunObject} :
    RunObject.ofJson? value = some run ↔
      ∃ record, record? ["metadata", "spec", "status"] value = some record ∧
        run.ReadFrom record := by
  simp only [ofJson?, Option.bind_eq_bind, Option.bind_eq_some_iff, Option.pure_def,
    Option.some.injEq]
  refine exists_congr fun record => and_congr_right fun _ => ⟨?_, fun read => ?_⟩
  · rintro ⟨metadata, readMetadata, spec, readSpec, status, readStatus, rfl⟩
    exact ⟨readMetadata, readSpec, readStatus⟩
  · exact ⟨_, read.metadata, _, read.spec, _, read.status, rfl⟩

/-- The status that a patch of a stored run is laid over.  A stored status that is no object gives
way as a whole. -/
def baseStatus (stored : Json) : RunStatus :=
  (RunStatus.ofJson? (.object ((stored.get? "status").getD .null).membersOf)).getD {}

section Stored

variable {members : Members} {run : RunObject} {status : RunStatus}

/-- An empty object is read as the empty status. -/
theorem ofJson?_empty : RunStatus.ofJson? (.object []) = some {} := by
  decide +kernel

/-- A run that can be read has a status by name, by position, or not at all. -/
theorem status_cases (read : RunObject.ofJson? (.object members) = some run) :
    (∃ named status, members.lookup "status" = some (.object named) ∧
        RunStatus.ofJson? (.object named) = some status ∧ run.status = some status) ∨
      (∃ items, members.lookup "status" = some (.array items)) ∨
      ((members.lookup "status").getD .null = .null ∧ run.status = none) := by
  obtain ⟨record, opened, read⟩ := ofJson?_eq_some_iff.1 read
  obtain ⟨-, rfl⟩ := record?_object_eq_some_iff.1 opened
  have readStatus := read.status
  simp only [Record.nullable, Bool.false_eq_true, false_and, if_false, Record.optional]
    at readStatus
  cases stored : members.lookup "status" with
  | none =>
    simp only [stored, Option.some.injEq] at readStatus
    exact .inr (.inr ⟨rfl, readStatus.symm⟩)
  | some value =>
    simp only [stored] at readStatus
    cases value with
    | null =>
      exact .inr (.inr ⟨rfl, (Option.some.inj readStatus).symm⟩)
    | array items => exact .inr (.inl ⟨items, rfl⟩)
    | object named =>
      obtain ⟨status, decoded, recorded⟩ := Option.map_eq_some_iff.1 readStatus
      exact .inl ⟨named, status, rfl, decoded, recorded.symm⟩
    | bool _ | number _ | string _ | unreadable => cases readStatus

/-- What a patch of a stored run is laid over can be read. -/
theorem ofJson?_membersOf (read : RunObject.ofJson? (.object members) = some run) :
    RunStatus.ofJson? (.object ((members.lookup "status").getD .null).membersOf) =
      some (baseStatus (.object members)) := by
  have decoded : (RunStatus.ofJson?
      (.object ((members.lookup "status").getD .null).membersOf)).isSome = true := by
    rcases status_cases read with
      ⟨named, status, stored, decoded, -⟩ | ⟨items, stored⟩ | ⟨stored, -⟩
    · simp [stored, membersOf, decoded]
    · simp [stored, membersOf, ofJson?_empty]
    · simp [stored, membersOf, ofJson?_empty]
  obtain ⟨base, decoded⟩ := Option.isSome_iff_exists.1 decoded
  simp [baseStatus, get?, decoded]

/-- A status that is not stored by position is what a patch is laid over. -/
theorem baseStatus_eq_recorded (read : RunObject.ofJson? (.object members) = some run)
    (named : ∀ items, members.lookup "status" ≠ some (.array items)) :
    baseStatus (.object members) = run.recorded := by
  rcases status_cases read with
    ⟨named, status, stored, decoded, recorded⟩ | ⟨items, stored⟩ | ⟨stored, recorded⟩
  · simp [baseStatus, get?, stored, membersOf, decoded, RunObject.recorded, recorded]
  · exact absurd stored (named items)
  · simp [baseStatus, get?, stored, membersOf, ofJson?_empty, RunObject.recorded, recorded]

/-- Patching the status merges that member alone. -/
theorem statusPatch_eq : (StoreRequest.statusPatch status).mergePatch (.object members) =
    .object (mergeMembers [("status", status.toJson)] members) := by
  simp [StoreRequest.statusPatch, mergePatch, membersOf]

/-- Only what stands under `status` is merged into; all other names keep what they hold. -/
theorem lookup_mergeMembers_status (name : String) :
    (mergeMembers [("status", status.toJson)] members).lookup name =
      if name = "status" then
        some (status.toJson.mergePatch (.object ((members.lookup "status").getD .null).membersOf))
      else members.lookup name := by
  simp [mergeMembers, RunStatus.toJson_eq, mergePatch, membersOf, Members.lookup_put]

/-- A written status is laid over the stored one, and nothing else of the run changes. -/
theorem ofJson?_statusPatch (fits : status.Fits)
    (read : RunObject.ofJson? (.object members) = some run) :
    RunObject.ofJson? ((StoreRequest.statusPatch status).mergePatch (.object members)) =
      some { run with status := some (status.laidOver (baseStatus (.object members))) } := by
  have merged := RunStatus.ofJson?_mergePatch fits (ofJson?_membersOf read)
  obtain ⟨record, opened, read⟩ := ofJson?_eq_some_iff.1 read
  obtain ⟨-, rfl⟩ := record?_object_eq_some_iff.1 opened
  rw [statusPatch_eq]
  refine ofJson?_eq_some_iff.2 ⟨_, record?_mergeMembers opened, ?_, ?_, ?_⟩
  · simpa [Record.required, lookup_mergeMembers_status] using read.metadata
  · simpa [Record.required, lookup_mergeMembers_status] using read.spec
  · rw [RunStatus.mergePatch_toJson] at merged
    simp [Record.nullable, Record.optional, lookup_mergeMembers_status, RunStatus.mergePatch_toJson,
      merged]

/-- What the status in a stored run records, if it can be read.  Without a status nothing is
recorded. -/
def statusIn? (members : Members) : Option RunStatus :=
  match (members.lookup "status").getD .null with
  | .null => some {}
  | value => RunStatus.ofJson? value

/-- The metadata of a stored run, if they can be read. -/
def metadataIn? (members : Members) : Option Metadata :=
  (members.lookup "metadata").bind Metadata.ofJson?

/-- The metadata of a run that is read are those in its members. -/
theorem metadataIn?_of_ofJson? (read : RunObject.ofJson? (.object members) = some run) :
    metadataIn? members = some run.metadata := by
  obtain ⟨record, opened, read⟩ := ofJson?_eq_some_iff.1 read
  obtain ⟨-, rfl⟩ := record?_object_eq_some_iff.1 opened
  exact read.metadata

/-- The status of a run that is read is the one in its members. -/
theorem statusIn?_of_ofJson? (read : RunObject.ofJson? (.object members) = some run) :
    statusIn? members = some run.recorded := by
  obtain ⟨record, opened, read⟩ := ofJson?_eq_some_iff.1 read
  obtain ⟨-, rfl⟩ := record?_object_eq_some_iff.1 opened
  have readStatus := read.status
  simp only [Record.nullable, Bool.false_eq_true, false_and, if_false, Record.optional]
    at readStatus
  unfold statusIn? recorded
  cases stored : members.lookup "status" with
  | none =>
    simp only [stored, Option.some.injEq] at readStatus
    simp [← readStatus]
  | some value =>
    simp only [stored] at readStatus
    cases value with
    | null =>
      simp [← Option.some.inj readStatus]
    | bool _ | number _ | string _ | array _ | object _ | unreadable =>
      obtain ⟨status, decoded, recorded⟩ := Option.map_eq_some_iff.1 readStatus
      simp [← recorded, decoded]

/-- What a patch of a stored status is laid over is the stored status, or nothing if that is given
by position. -/
theorem ofJson?_membersOf_statusIn? {stored : RunStatus} (read : statusIn? members = some stored) :
    ∃ shown, (shown = stored ∨ shown = {}) ∧
      RunStatus.ofJson? (.object ((members.lookup "status").getD .null).membersOf) =
        some shown := by
  unfold statusIn? at read
  cases value : (members.lookup "status").getD .null with
  | null => exact ⟨{}, .inr rfl, by simp [membersOf, ofJson?_empty]⟩
  | array _ => exact ⟨{}, .inr rfl, by simp [membersOf, ofJson?_empty]⟩
  | object named =>
    rw [value] at read
    exact ⟨stored, .inl rfl, by simpa [membersOf] using read⟩
  | bool _ | number _ | string _ | unreadable =>
    rw [value] at read
    cases read

/-- After a status was written it can be read, laid over the one that was stored. -/
theorem statusIn?_mergeMembers_status {stored : RunStatus} (fits : status.Fits)
    (read : statusIn? members = some stored) :
    ∃ shown, (shown = stored ∨ shown = {}) ∧
      statusIn? (mergeMembers [("status", status.toJson)] members) =
        some (status.laidOver shown) := by
  obtain ⟨shown, which, read⟩ := ofJson?_membersOf_statusIn? read
  refine ⟨shown, which, ?_⟩
  have merged := RunStatus.ofJson?_mergePatch fits read
  rw [RunStatus.mergePatch_toJson] at merged
  simp [statusIn?, lookup_mergeMembers_status, RunStatus.mergePatch_toJson, merged]

/-- A patch of the finalizers leaves the status alone. -/
theorem lookup_status_finalizersPatch (finalizers : List String) :
    ((StoreRequest.finalizersPatch finalizers).mergePatch (.object members)).membersOf.lookup
      "status" = members.lookup "status" := by
  simp [StoreRequest.finalizersPatch, mergePatch, mergeMembers, membersOf, Members.lookup_put]

end Stored

end RunObject

end FabricUpgrade
