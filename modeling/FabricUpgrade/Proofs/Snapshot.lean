import FabricUpgrade.Proofs.Aftermath
import FabricUpgrade.Proofs.Collecting
import FabricUpgrade.Proofs.Generations
import FabricUpgrade.Proofs.HostOptions

/-!
# Outputs are complete or not there

The outputs of a fabric are collected by a call for the groups, one for the summary, and one for
each record of the summary whose component is known.  `Outputs.Collects` says what comes of it: the
outputs show all that was answered, or the first call that fails ends the collection with its error.
A reconcile that has driven the upgrade to its end writes how it ended either way, and where there
are no outputs it writes the ones that were recorded.
-/

namespace FabricUpgrade

open Program

/-- A type is that of a component exactly if it is written as the component is. -/
theorem Component.ofWire?_eq_some_iff {type : String} {component : Component} :
    ofWire? type = some component ↔ type = component.wire := by
  constructor
  · intro found
    exact (by simpa using List.find?_some found : component.wire = type).symm
  · rintro rfl
    exact ofWire?_wire component

/-!
## What outputs show
-/

/-- The entry shows the group: its flags as they are, and of every key of its extended configuration
the last value. -/
structure PlanEntry.Shows (entry : PlanEntry) (group : UnitGroup) : Prop where
  id : entry.id = group.id
  type : entry.type = group.type
  enabled : entry.enabled = group.enabled
  parallel : entry.parallel = group.parallel
  pauseAfterEachUnit : entry.pauseAfterEachUnit = group.pauseAfterEachUnit
  /-- No key is there twice. -/
  ordered : SortedMap.Ordered entry.extendedConfig
  last : ∀ key value, entry.extendedConfig.lookup key = some value ↔
    ∃ before after, group.extendedConfig = before ++ ⟨key, value⟩ :: after ∧
      ∀ other ∈ after, other.key ≠ key

/-- The state shows what was answered of a group. -/
structure GroupState.Shows (state : GroupState) (status : GroupStatus) : Prop where
  groupId : state.groupId = status.groupId
  groupName : state.groupName = status.groupName
  status : state.status = status.status

/-- The state shows the record of a component, and what was answered of its groups. -/
structure ComponentState.Shows (state : ComponentState) (record : ComponentRecord)
    (statuses : List GroupStatus) : Prop where
  type : state.type = record.type
  status : state.status = record.status
  details : state.details = record.details
  targetVersion : state.targetVersion = record.targetVersion
  groupStates : List.Forall₂ GroupState.Shows state.groupStates statuses

/-- The last entry of a key is the one that is found from behind. -/
theorem Bag.get?_reverse_eq_some_iff {bag : Bag} {key value : String} :
    get? bag.reverse key = some value ↔
      ∃ before after, bag = before ++ ⟨key, value⟩ :: after ∧ ∀ other ∈ after, other.key ≠ key := by
  simp only [get?, Option.map_eq_some_iff, List.find?_eq_some_iff_append, decide_eq_true_eq,
    Bool.not_eq_true', decide_eq_false_iff_not]
  constructor
  · rintro ⟨⟨known, kept⟩, ⟨rfl, after, before, split, unlike⟩, rfl⟩
    refine ⟨before.reverse, after.reverse, ?_, fun other there => ?_⟩
    · rw [← List.reverse_reverse bag, split]
      simp
    · exact unlike other (by simpa using there)
  · rintro ⟨before, after, rfl, unlike⟩
    refine ⟨⟨key, value⟩, ⟨rfl, after.reverse, before.reverse, by simp, fun other there => ?_⟩, rfl⟩
    exact unlike other (by simpa using there)

/-- An entry of the plan shows the group that it was made of. -/
theorem PlanEntry.shows_ofGroup (group : UnitGroup) : (ofGroup group).Shows group where
  id := rfl
  type := rfl
  enabled := rfl
  parallel := rfl
  pauseAfterEachUnit := rfl
  ordered := SortedMap.ordered_ofEntries _
  last key value := by
    rw [← Bag.get?_reverse_eq_some_iff, ← Bag.lookup_toMap]
    rfl

/-- The state of a group shows the status that it was made of. -/
theorem GroupState.shows_ofStatus (status : GroupStatus) : (ofStatus status).Shows status :=
  ⟨rfl, rfl, rfl⟩

/-!
## What comes of a collection
-/

namespace Session

/-- The exchange of a call that succeeds. -/
def answered (call : Call) (reply : call.Reply) : Program.Exchange Question Answer :=
  ⟨.call call, .ok reply⟩

/-- The exchange of a call that fails. -/
def refused (call : Call) (error : ManagerError) : Program.Exchange Question Answer :=
  ⟨.call call, .error error⟩

/-- The exchange is that of a call that succeeds. -/
def Succeeds (exchange : Program.Exchange Question Answer) : Prop :=
  ∃ call reply, exchange = answered call reply

instance : DecidablePred Succeeds
  | ⟨.call call, .ok reply⟩ => isTrue ⟨call, reply, rfl⟩
  | ⟨.call _, .error _⟩ => isFalse (by rintro ⟨_, _, same⟩; cases same)
  | ⟨.now, _⟩ | ⟨.sleep _, _⟩ | ⟨.stopRequested, _⟩ => isFalse (by rintro ⟨_, _, same⟩; cases same)

/-- A call that was answered has succeeded. -/
theorem succeeds_answered (call : Call) (reply : call.Reply) : Succeeds (answered call reply) :=
  ⟨call, reply, rfl⟩

/-- A call that was refused has not. -/
theorem not_succeeds_refused (call : Call) (error : ManagerError) :
    ¬ Succeeds (refused call error) := by
  rintro ⟨_, _, same⟩
  cases same

/-- What a call that has to succeed leads to, in front of the rest. -/
theorem cases_of_perform_bind {Value : Type} {call : Call} {component : Option Component}
    {target : Option String} {next : call.Reply → Procedure Value} {said : History}
    {outcome : Except Failure Value}
    (converses : Converses (Procedure.perform call component target >>= next).run said outcome) :
    (∃ reply later, said = answered call reply :: later ∧
        Converses (next reply).run later outcome) ∨
      ∃ error, said = [refused call error] ∧
        outcome = .error (.call call.operation component target error) := by
  have begins : (Procedure.perform call component target >>= next).run = _ :=
    run_bind_of_ask (Procedure.perform_run call component target)
  rw [begins] at converses
  cases converses with
  | ask answer continues =>
    cases answer with
    | ok reply => exact .inl ⟨reply, _, rfl, continues⟩
    | error error =>
      cases continues
      exact .inr ⟨error, rfl, rfl⟩

end Session

namespace Outputs

open Session

/-- What is said to learn the statuses of the groups of a component by its type, and what is learnt:
nothing where the type is not known. -/
inductive Learns (type : String) : History → List GroupStatus → Prop where
  | unknown (unknown : ∀ component, type ≠ Component.wire component) : Learns type [] []
  | known {component : Component} (known : type = component.wire) (statuses : List GroupStatus) :
      Learns type [answered (.getGroupStatus component) statuses] statuses

/-- What is said to learn the states of the components of a summary, in its order, and the states
that show what is learnt. -/
inductive Tells : List ComponentRecord → History → List ComponentState → Prop where
  | nil : Tells [] [] []
  | cons {record : ComponentRecord} {rest : List ComponentRecord} {first later : History}
      {statuses : List GroupStatus} {state : ComponentState} {states : List ComponentState}
      (learns : Learns record.type first statuses) (shows : state.Shows record statuses)
      (tells : Tells rest later states) : Tells (record :: rest) (first ++ later) (state :: states)

/-- What is said up to the first component of a summary of whose groups the statuses are not learnt,
and the failure. -/
inductive Breaks : List ComponentRecord → History → Failure → Prop where
  | here {record : ComponentRecord} (rest : List ComponentRecord) {component : Component}
      (known : record.type = component.wire) (error : ManagerError) :
      Breaks (record :: rest) [refused (.getGroupStatus component) error]
        (.call .groupStatusGet (some component) none error)
  | later {record : ComponentRecord} {rest : List ComponentRecord} {first later : History}
      {statuses : List GroupStatus} {failure : Failure}
      (learns : Learns record.type first statuses) (breaks : Breaks rest later failure) :
      Breaks (record :: rest) (first ++ later) failure

/-- What comes of a collection of outputs. -/
inductive Collects : History → Except Failure Outputs → Prop where
  /-- Every call has succeeded. -/
  | whole {groups : List UnitGroup} {summary : Summary} {told : History} {outputs : Outputs}
      (plan : List.Forall₂ PlanEntry.Shows outputs.plan groups)
      (tells : Tells summary.components told outputs.state) :
      Collects (answered (.listGroups none) groups :: answered (.getStatus none) summary :: told)
        (.ok outputs)
  /-- The groups were not listed. -/
  | unlisted (error : ManagerError) :
      Collects [refused (.listGroups none) error] (.error (.call .groupList none none error))
  /-- There was no summary. -/
  | unsummarized (groups : List UnitGroup) (error : ManagerError) :
      Collects [answered (.listGroups none) groups, refused (.getStatus none) error]
        (.error (.call .statusGet none none error))
  /-- Of a component of the summary the statuses of its groups were not learnt. -/
  | untold (groups : List UnitGroup) {summary : Summary} {told : History} {failure : Failure}
      (breaks : Breaks summary.components told failure) :
      Collects (answered (.listGroups none) groups :: answered (.getStatus none) summary :: told)
        (.error failure)

variable {type : String} {records : List ComponentRecord} {said : History} {Value : Type}

/-- What the states of the groups of a component lead to, in front of the rest. -/
theorem cases_of_collectGroupStates_bind {next : List GroupState → Procedure Value}
    {outcome : Except Failure Value}
    (converses : Converses (collectGroupStates type >>= next).run said outcome) :
    (∃ statuses states first later, said = first ++ later ∧ Learns type first statuses ∧
        List.Forall₂ GroupState.Shows states statuses ∧
        Converses (next states).run later outcome) ∨
      ∃ component error, type = Component.wire component ∧
        said = [refused (.getGroupStatus component) error] ∧
        outcome = .error (.call .groupStatusGet (some component) none error) := by
  unfold collectGroupStates at converses
  cases known : Component.ofWire? type with
  | none =>
    simp only [known] at converses
    have unknown (component : Component) : type ≠ component.wire := fun named => by
      simp [Component.ofWire?_eq_some_iff.2 named] at known
    exact .inl ⟨[], [], [], said, rfl, .unknown unknown, .nil, converses⟩
  | some component =>
    simp only [known] at converses
    have named : type = component.wire := Component.ofWire?_eq_some_iff.1 known
    rcases converses.of_bind with ⟨_, later, states, rfl, learns, continues⟩ | ⟨_, learns, rfl⟩
    · rcases cases_of_perform_bind learns with ⟨statuses, _, rfl, ends⟩ | ⟨_, _, impossible⟩
      · cases ends
        have shows : List.Forall₂ GroupState.Shows
            (List.map GroupState.ofStatus statuses) statuses :=
          List.forall₂_map_left_iff.2 (List.forall₂_same.2 fun status _ =>
            GroupState.shows_ofStatus status)
        exact .inl ⟨statuses, _, _, later, rfl, .known named statuses, shows, continues⟩
      · cases impossible
    · rcases cases_of_perform_bind learns with ⟨_, _, _, ends⟩ | ⟨error, rfl, same⟩
      · cases ends
      · cases same
        exact .inr ⟨component, error, named, rfl, rfl⟩

/-- The states of all components are told, or the statuses of the groups of one are not learnt. -/
theorem cases_of_collectStates {outcome : Except Failure (List ComponentState)}
    (converses : Converses (collectStates records).run said outcome) :
    (∃ states, outcome = .ok states ∧ Tells records said states) ∨
      ∃ failure, outcome = .error failure ∧ Breaks records said failure := by
  induction records generalizing said outcome with
  | nil =>
    cases converses
    exact .inl ⟨[], rfl, .nil⟩
  | cons record rest inductionHypothesis =>
    rcases cases_of_collectGroupStates_bind converses with
      ⟨statuses, states, first, later, rfl, learns, shows, continues⟩ |
      ⟨component, error, known, rfl, rfl⟩
    · rcases continues.of_bind with ⟨later, _, others, rfl, tells, ends⟩ | ⟨failure, breaks, rfl⟩
      · rcases inductionHypothesis tells with ⟨_, same, tells⟩ | ⟨_, impossible, _⟩
        · cases same
          cases ends
          rw [List.append_nil]
          exact .inl ⟨_, rfl, .cons learns ⟨rfl, rfl, rfl, rfl, shows⟩ tells⟩
        · cases impossible
      · rcases inductionHypothesis breaks with ⟨_, impossible, _⟩ | ⟨_, same, breaks⟩
        · cases impossible
        · cases same
          exact .inr ⟨failure, rfl, .later learns breaks⟩
    · exact .inr ⟨_, rfl, .here rest known error⟩

/-- Every conversation in which outputs are collected comes to one of the four ends. -/
theorem collects_of_converses {outcome : Except Failure Outputs}
    (converses : Converses collect.run said outcome) : Collects said outcome := by
  rcases cases_of_perform_bind converses with ⟨groups, _, rfl, listed⟩ | ⟨error, rfl, rfl⟩
  swap
  · exact .unlisted error
  rcases cases_of_perform_bind listed with ⟨summary, _, rfl, summarized⟩ | ⟨error, rfl, rfl⟩
  swap
  · exact .unsummarized groups error
  rcases summarized.of_bind with ⟨told, _, states, rfl, tells, ends⟩ | ⟨failure, breaks, rfl⟩
  · rcases cases_of_collectStates tells with ⟨_, same, tells⟩ | ⟨_, impossible, _⟩
    · cases same
      cases ends
      rw [List.append_nil]
      refine .whole ?_ tells
      exact List.forall₂_map_left_iff.2 (List.forall₂_same.2 fun group _ =>
        PlanEntry.shows_ofGroup group)
    · cases impossible
  · rcases cases_of_collectStates breaks with ⟨_, impossible, _⟩ | ⟨_, same, breaks⟩
    · cases impossible
    · cases same
      exact .untold groups breaks

/-!
The outputs are there exactly if no call has failed.
-/

/-- Where all groups are learnt of, every call has succeeded. -/
theorem Learns.succeeds {statuses : List GroupStatus} (learns : Learns type said statuses) :
    ∀ exchange ∈ said, Succeeds exchange := by
  cases learns with
  | unknown => exact List.forall_mem_nil _
  | known known statuses => simpa using succeeds_answered _ _

/-- Where all components are told, every call has succeeded. -/
theorem Tells.succeeds {states : List ComponentState} (tells : Tells records said states) :
    ∀ exchange ∈ said, Succeeds exchange := by
  induction tells with
  | nil => exact List.forall_mem_nil _
  | cons learns _ _ inductionHypothesis =>
    exact List.forall_mem_append.2 ⟨learns.succeeds, inductionHypothesis⟩

/-- The last call of a collection that breaks off has failed, and the failure is of it. -/
theorem Breaks.last {failure : Failure} (breaks : Breaks records said failure) :
    ∃ earlier component error, said = earlier ++ [refused (.getGroupStatus component) error] ∧
      failure = .call .groupStatusGet (some component) none error ∧
      ∀ exchange ∈ earlier, Succeeds exchange := by
  induction breaks with
  | here rest known error => exact ⟨[], _, error, rfl, rfl, List.forall_mem_nil _⟩
  | later learns _ inductionHypothesis =>
    obtain ⟨earlier, component, error, rfl, rfl, succeed⟩ := inductionHypothesis
    exact ⟨_, component, error, (List.append_assoc ..).symm, rfl,
      List.forall_mem_append.2 ⟨learns.succeeds, succeed⟩⟩

/-- A collection that fails ends with the call that has failed, the first one to do so. -/
theorem Collects.last {failure : Failure} (collects : Collects said (.error failure)) :
    ∃ earlier call component error, said = earlier ++ [refused call error] ∧
      failure = .call call.operation component none error ∧
      ∀ exchange ∈ earlier, Succeeds exchange := by
  cases collects with
  | unlisted error => exact ⟨[], _, none, error, rfl, rfl, List.forall_mem_nil _⟩
  | unsummarized groups error =>
    exact ⟨[answered (.listGroups none) groups], _, none, error, rfl, rfl,
      by simpa using succeeds_answered _ _⟩
  | @untold groups summary _ _ breaks =>
    obtain ⟨earlier, component, error, rfl, rfl, succeed⟩ := breaks.last
    refine ⟨_ :: _ :: earlier, _, some component, error, rfl, rfl, ?_⟩
    exact List.forall_mem_cons.2 ⟨succeeds_answered _ _,
      List.forall_mem_cons.2 ⟨succeeds_answered _ _, succeed⟩⟩

/-- Where outputs are collected, every call has succeeded. -/
theorem Collects.succeeds {outputs : Outputs} (collects : Collects said (.ok outputs)) :
    ∀ exchange ∈ said, Succeeds exchange := by
  cases collects with
  | whole _ tells =>
    exact List.forall_mem_cons.2 ⟨succeeds_answered _ _,
      List.forall_mem_cons.2 ⟨succeeds_answered _ _, tells.succeeds⟩⟩

/-- Something is said in every collection. -/
theorem said_ne_nil {outcome : Except Failure Outputs}
    (converses : Converses collect.run said outcome) : said ≠ [] := by
  cases collects_of_converses converses <;> exact List.cons_ne_nil _ _

/-- A collection of outputs has only read; it has shown all that it was answered, or nothing. -/
structure AllOrNothing (said : History) (outcome : Except Failure Outputs) : Prop where
  reads : ∀ exchange ∈ said, Reads exchange.question
  collects : Collects said outcome
  ok_iff : (∃ outputs, outcome = .ok outputs) ↔ ∀ exchange ∈ said, Succeeds exchange
  /-- A failure is that of the first call that has failed, after which nothing is asked. -/
  first : ∀ failure, outcome = .error failure → ∃ earlier call component error,
    said = earlier ++ [refused call error] ∧
    failure = .call call.operation component none error ∧ ∀ exchange ∈ earlier, Succeeds exchange

/-- Outputs are collected whole, or the collection ends with the first call that fails. -/
theorem allOrNothing_of_converses {outcome : Except Failure Outputs}
    (converses : Converses collect.run said outcome) : AllOrNothing said outcome where
  reads exchange there := by
    obtain ⟨earlier, later, rfl⟩ := List.append_of_mem there
    exact reads_of_asks (converses_iff_reaches_done.1 converses).asks
  collects := collects_of_converses converses
  ok_iff := by
    have collects := collects_of_converses converses
    constructor
    · rintro ⟨outputs, rfl⟩
      exact collects.succeeds
    · intro succeed
      cases outcome with
      | ok outputs => exact ⟨outputs, rfl⟩
      | error failure =>
        obtain ⟨earlier, call, _, error, rfl, -⟩ := collects.last
        exact absurd (succeed _ (List.mem_append_right _ List.mem_cons_self))
          (not_succeeds_refused call error)
  first := by
    rintro failure rfl
    exact (collects_of_converses converses).last

end Outputs

/-!
## What a reconcile does without outputs
-/

namespace Reconcile

open Moment (Stands getD_of_which)

variable {run : RunObject} {exchanges : History} {initial stored : RunStatus}

/-- A list that is written each time as it was recorded at first stays recorded. -/
theorem data_of_stands {Datum : Type} {written : List RunStatus} (data : RunStatus → List Datum)
    (nothing : data {} = [])
    (lays : ∀ status base : RunStatus,
      data (status.laidOver base) = (Json.listed? (data status)).getD (data base))
    (kept : ∀ status ∈ written, data status = data initial)
    (stands : Stands initial written stored) : data stored = data initial := by
  induction stands with
  | nothing => rfl
  | @laid earlier under shown status _ which inductionHypothesis =>
    obtain ⟨keptEarlier, same⟩ := List.forall_mem_append.1 kept
    have same : data status = data initial := same status List.mem_cons_self
    have before : data under = data initial := inductionHypothesis keptEarlier
    rw [lays, same, ← before]
    exact getD_of_which data nothing which

/-- A reconcile has driven the upgrade to its end and then written that, with the outputs that were
recorded before. -/
structure KeepsOutputs (run : RunObject) (exchanges : History)
    (ended : Except Failure Report) : Prop where
  written : ∃ runId began time, (Ledger.ofHistory exchanges).written =
    [run.runningStatus runId began, run.endedStatus (run.runningStatus runId began) ended time]
  /-- Where the store has made each change of which it says so, and no status was lost. -/
  stored : ∀ members after, RunObject.ofJson? (.object members) = some run →
    Becomes members exchanges after → (Ledger.ofHistory exchanges).lost = false →
    ∃ stored, RunObject.statusIn? after = some stored ∧ stored.phase = .ofEnd ended ∧
      stored.upgradePlan = run.recorded.upgradePlan ∧ stored.state = run.recorded.state

-- A reconcile is known by what it obeys; to compute it would be to compute on texts.
attribute [local irreducible] reconcile

/-- What was written is the end of the execution, with the outputs if there are any. -/
theorem written_of_drove {result : Except ReconcileError Action} {driven said : Session.History}
    {ended : Except Failure Report} {outcome : Except Failure Outputs}
    (converses : Converses (reconcile run {}).run exchanges result)
    (managed : (Ledger.ofHistory exchanges).managed = driven ++ said)
    (drives : Converses run.driver driven ended)
    (collects : Converses Outputs.collect.run said outcome) :
    ∃ runId began time, (Ledger.ofHistory exchanges).written = [run.runningStatus runId began,
      run.closingStatus (run.runningStatus runId began) ended time outcome] := by
  have drove : Drove run (Ledger.ofHistory exchanges) driven ended := ⟨drives, said, managed⟩
  have executes : task run = .execute :=
    task_of_drove (converses_iff_reaches_done.1 converses) drove
  have balanced : Balanced run (Ledger.ofHistory exchanges) :=
    (reconcile_balances executes).concludes converses
  cases balanced with
  | unstarted idle => exact absurd idle drove.said
  | cancelled stopped _ =>
    -- Nothing is said after an upgrade was stopped, but a collection says something.
    obtain ⟨rfl, -⟩ := drove.unique ⟨stopped, [], (List.append_nil _).symm⟩
    exact absurd (by simpa using managed) (Outputs.said_ne_nil collects)
  | recorded alsoDrives alsoCollects alsoManaged written =>
    obtain ⟨rfl, rfl⟩ := drove.unique ⟨alsoDrives.ends, _, alsoManaged⟩
    obtain rfl := List.append_cancel_left (managed.symm.trans alsoManaged)
    obtain ⟨-, rfl⟩ := collects.unique alsoCollects (rfl : said ++ [] = said ++ [])
    exact ⟨_, _, _, written⟩

/-- A reconcile whose collection fails behind its upgrade keeps the outputs that were recorded. -/
theorem keepsOutputs_of_drove {result : Except ReconcileError Action}
    {driven said : Session.History} {ended : Except Failure Report} {failure : Failure}
    (converses : Converses (reconcile run {}).run exchanges result)
    (managed : (Ledger.ofHistory exchanges).managed = driven ++ said)
    (drives : Converses run.driver driven ended)
    (fails : Converses Outputs.collect.run said (.error failure)) :
    KeepsOutputs run exchanges ended := by
  obtain ⟨runId, began, time, written⟩ := written_of_drove converses managed drives fails
  refine ⟨⟨runId, began, time, written⟩, fun members after read becomes kept => ?_⟩
  obtain ⟨stored, readAfter, stands⟩ := becomes.stands (RunObject.fits_of_ofJson? read)
    (RunObject.statusIn?_of_ofJson? read) (converses_iff_reaches_done.1 converses)
  rw [recordings_of_kept kept, written] at stands
  have last : Stands run.recorded ([run.runningStatus runId began] ++
      [run.endedStatus (run.runningStatus runId began) ended time]) stored := stands
  obtain ⟨_, _, -, -, laid⟩ := last.of_snoc
  refine ⟨stored, readAfter, by rw [laid]; rfl, ?_, ?_⟩
  · refine data_of_stands RunStatus.upgradePlan rfl (fun _ _ => rfl) ?_ stands
    exact List.forall_mem_cons.2 ⟨rfl, List.forall_mem_singleton.2 rfl⟩
  · refine data_of_stands RunStatus.state rfl (fun _ _ => rfl) ?_ stands
    exact List.forall_mem_cons.2 ⟨rfl, List.forall_mem_singleton.2 rfl⟩

/-- Whatever the remote side answers, a collection of outputs only reads and shows all that was
answered or fails with the first call that does; and a reconcile whose collection fails after it has
driven the upgrade to an end writes that end, and leaves the outputs as they were recorded. -/
theorem snapshot_or_nothing :
    (∀ answer : Session.History → (asked : Session.Question) → Session.Answer asked,
      Outputs.AllOrNothing (Outputs.collect.run.converse answer []).1
        (Outputs.collect.run.converse answer []).2) ∧
    ∀ (run : RunObject) (exchanges : History) (result : Except ReconcileError Action)
      (driven said : Session.History) (ended : Except Failure Report) (failure : Failure),
      Converses (reconcile run {}).run exchanges result →
      (Ledger.ofHistory exchanges).managed = driven ++ said →
      Converses run.driver driven ended → Converses Outputs.collect.run said (.error failure) →
      KeepsOutputs run exchanges ended := by
  constructor
  · intro answer
    obtain ⟨said, split, converses, -⟩ := converse_spec answer Outputs.collect.run []
    rw [split, List.nil_append]
    exact Outputs.allOrNothing_of_converses converses
  · intro run exchanges result driven said ended failure converses managed drives fails
    exact keepsOutputs_of_drove converses managed drives fails

/-- A run is completed whose statuses of groups are not answered afterwards. -/
theorem snapshot_or_nothing_plain :
    ∃ exchanges result driven said ended failure after stored,
      Converses (reconcile (.plain "http://nsx.test") {}).run exchanges result ∧
      (Ledger.ofHistory exchanges).managed = driven ++ said ∧
      Converses (RunObject.plain "http://nsx.test").driver driven ended ∧
      Converses Outputs.collect.run said (.error failure) ∧
      Becomes RunObject.plainMembers exchanges after ∧
      RunObject.statusIn? after = some stored ∧ stored.phase = .ofEnd ended := by
  have played :
      let ledger := Ledger.ofHistory
        ((reconcile (.plain "http://nsx.test") {}).run.play answerReconcile).1
      ledger.lost = false ∧ ledger.lastPhase? = some .completed ∧
        ∃ last ∈ ledger.managed.getLast?, ¬ Session.Succeeds last := by
    decide +kernel
  have converses := converses_play answerReconcile (reconcile (.plain "http://nsx.test") {}).run
  generalize (reconcile (.plain "http://nsx.test") {}).run.play answerReconcile = conversation
    at played converses
  obtain ⟨exchanges, result⟩ := conversation
  obtain ⟨kept, phase, last, atEnd, fails⟩ := played
  simp only at kept phase atEnd converses
  have executes : task (.plain "http://nsx.test") = .execute := by decide +kernel
  have balanced : Balanced (.plain "http://nsx.test") (Ledger.ofHistory exchanges) :=
    (reconcile_balances executes).concludes converses
  cases balanced with
  | unstarted idle =>
    rw [idle] at atEnd
    cases atEnd
  | cancelled _ written =>
    rw [Ledger.lastPhase?, written] at phase
    cases phase
  | @recorded _ _ _ driven said ended outcome drives collects managed _ =>
    have inCollection : last ∈ said := by
      rw [managed, List.getLast?_append_of_ne_nil _ (Outputs.said_ne_nil collects)] at atEnd
      exact List.mem_of_getLast? atEnd
    cases outcome with
    | ok outputs =>
      exact absurd ((Outputs.collects_of_converses collects).succeeds last inCollection) fails
    | error failure =>
      have keeps := snapshot_or_nothing.2 _ _ _ _ _ _ _ converses managed drives.ends collects
      obtain ⟨stored, read, phase, -⟩ := keeps.stored _ _ RunObject.ofJson?_plainMembers
        (becomes_heed exchanges) kept
      exact ⟨exchanges, result, driven, said, ended, failure, _, stored, converses, managed,
        drives.ends, collects, becomes_heed exchanges, read, phase⟩

end Reconcile

end FabricUpgrade
