import FabricUpgrade.Proofs.Duration
import FabricUpgrade.Proofs.Interruption
import FabricUpgrade.Proofs.Reordering
import FabricUpgrade.Proofs.Staging

/-!
# The configuration of groups

The declared groups are configured one after the other, each with calls of its own, and any of the
calls may fail, whether it has been carried out or not (`Attends`).  If none fails the groups come to
stand as they are declared, and if one fails nothing has been done yet about the groups behind the
one that it is about (`Plan.configureGroups_arranges`).
-/

namespace FabricUpgrade

open Program Session Simulation

/-- How a call is answered where the groups stand as they do: the calls that have failed, and how
the groups stand behind it. -/
inductive Serves (groups : List UnitGroup) (call : Call) :
    call.Answer → List Call → List UnitGroup → Prop where
  /-- It is carried out. -/
  | carriedOut (fabric : Fabric) (stands : fabric.groups = groups) :
      Serves groups call (fabric.carryOut call).1 [] (fabric.carryOut call).2.groups
  /-- It fails, and nothing is done. -/
  | refused (error : ManagerError) : Serves groups call (.error error) [call] groups
  /-- It fails, but it was carried out. -/
  | lost (fabric : Fabric) (stands : fabric.groups = groups) (error : ManagerError) :
      Serves groups call (.error error) [call] (fabric.carryOut call).2.groups

/-- How exchanges are served one after the other. -/
inductive Attends : List UnitGroup → History → List Call → List UnitGroup → Prop where
  | nothing (groups : List UnitGroup) : Attends groups [] [] groups
  /-- The groups stand as they do while anything but a call is asked. -/
  | still {groups now : List UnitGroup} {exchange : Exchange Question Answer} {own : History}
      {failed : List Call} (quiet : ∀ call, exchange.question ≠ .call call)
      (attends : Attends groups own failed now) : Attends groups (exchange :: own) failed now
  | call {groups middle now : List UnitGroup} {call : Call} {answer : call.Answer}
      {own : History} {failed later : List Call} (serves : Serves groups call answer failed middle)
      (attends : Attends middle own later now) :
      Attends groups (⟨.call call, answer⟩ :: own) (failed ++ later) now

/-- A simulated fabric answers a call by refusing it or by carrying it out. -/
theorem serves_answer (fabric : Fabric) (call : Call) :
    ∃ failed,
      Serves fabric.groups call (fabric.answer call).1 failed (fabric.answer call).2.groups := by
  have answers : (∃ error faults, fabric.answer call = (.error error, { fabric with faults })) ∨
      ∃ faults, fabric.answer call = { fabric with faults }.carryOut call := by
    simp only [Fabric.answer]
    split
    case h_1 error faults _ => exact .inl ⟨error, faults, rfl⟩
    case h_2 faults _ => exact .inr ⟨faults, rfl⟩
  rcases answers with ⟨error, faults, answers⟩ | ⟨faults, answers⟩ <;> rw [answers]
  · exact ⟨_, .refused error⟩
  · exact ⟨_, .carriedOut { fabric with faults } rfl⟩

/-- A stage serves every call, or the call fails on the way there or back. -/
theorem serves_call (stage : Stage Fabric) (call : Call) :
    ∃ failed, Serves stage.manager.groups call (stage.call Fabric.answer call).1 failed
      (stage.call Fabric.answer call).2.manager.groups := by
  rcases stage.call_cases Fabric.answer call with refused | answered
  · rw [refused]
    exact ⟨_, .refused _⟩
  · rw [answered]
    exact serves_answer stage.manager call

/-- Whatever is asked on a stage with a simulated fabric, its exchanges are served one after the
other. -/
theorem exists_attends_hold {Result : Type} (stage : Stage Fabric) (session : Session Result) :
    ∃ own failed, Converses session own (stage.hold Fabric.answer session).1 ∧
      Attends stage.manager.groups own failed
        (stage.hold Fabric.answer session).2.manager.groups := by
  induction session generalizing stage with
  | done result => exact ⟨[], [], .done result, .nothing _⟩
  | ask asked resume inductionHypothesis =>
    obtain ⟨own, failed, converses, attends⟩ := inductionHypothesis
      (Stage.answer Fabric.answer asked stage).1 (Stage.answer Fabric.answer asked stage).2
    cases asked with
    | call made =>
      obtain ⟨fails, serves⟩ := serves_call stage made
      exact ⟨_, _, .ask _ converses, .call serves attends⟩
    | now => exact ⟨_, _, .ask _ converses, .still nofun attends⟩
    | sleep milliseconds =>
      have unmoved : (Stage.answer Fabric.answer (.sleep milliseconds) stage).2.manager =
          stage.manager :=
        stage.manager_sleep milliseconds
      rw [unmoved] at attends
      exact ⟨_, _, .ask _ converses, .still nofun attends⟩
    | stopRequested => exact ⟨_, _, .ask _ converses, .still nofun attends⟩

/-- A call that is always carried out either is, or it fails and it is open whether it was. -/
theorem Serves.cases_of_carryOut {groups middle : List UnitGroup} {call : Call}
    {answer : call.Answer} {failed : List Call} (serves : Serves groups call answer failed middle)
    {holds : call.Reply → List UnitGroup → Prop}
    (carries : ∀ fabric : Fabric, fabric.groups = groups → ∃ reply,
      (fabric.carryOut call).1 = .ok reply ∧ holds reply (fabric.carryOut call).2.groups) :
    (∃ reply, answer = .ok reply ∧ failed = [] ∧ holds reply middle) ∨
      ∃ error, answer = .error error ∧ failed = [call] ∧
        (middle = groups ∨ ∃ reply, holds reply middle) := by
  cases serves with
  | carriedOut fabric stands =>
    obtain ⟨reply, replied, holds⟩ := carries fabric stands
    exact .inl ⟨reply, replied, rfl, holds⟩
  | refused error => exact .inr ⟨error, rfl, rfl, .inl rfl⟩
  | lost fabric stands error =>
    obtain ⟨reply, -, holds⟩ := carries fabric stands
    exact .inr ⟨error, rfl, rfl, .inr ⟨reply, holds⟩⟩

/-- What a call that has to succeed leads to, in front of the rest: the rest goes on from its reply,
or it is the last call, and the one that has failed. -/
theorem performed {Next : Type} {call : Call} {component : Option Component}
    {target : Option String} {next : call.Reply → Procedure Next} {own : History}
    {outcome : Except Failure Next} {groups now : List UnitGroup} {failed : List Call}
    (converses : Converses (Procedure.perform call component target >>= next).run own outcome)
    (attends : Attends groups own failed now) (holds : call.Reply → List UnitGroup → Prop)
    (carries : ∀ fabric : Fabric, fabric.groups = groups → ∃ reply,
      (fabric.carryOut call).1 = .ok reply ∧ holds reply (fabric.carryOut call).2.groups) :
    (∃ reply later middle, own = ⟨.call call, .ok reply⟩ :: later ∧ holds reply middle ∧
        Converses (next reply).run later outcome ∧ Attends middle later failed now) ∨
      ∃ error, own = [⟨.call call, .error error⟩] ∧
        outcome = .error (.call call.operation component target error) ∧ failed = [call] ∧
          (now = groups ∨ ∃ reply, holds reply now) := by
  have begins : (Procedure.perform call component target >>= next).run = _ :=
    run_bind_of_ask (Procedure.perform_run call component target)
  rw [begins] at converses
  cases converses with
  | ask answer converses =>
    cases attends with
    | still quiet _ => exact absurd rfl (quiet call)
    | call serves attends =>
      rcases serves.cases_of_carryOut carries with
        ⟨reply, rfl, rfl, holds⟩ | ⟨error, rfl, rfl, stands⟩
      · exact .inl ⟨reply, _, _, rfl, holds, converses, attends⟩
      · cases converses
        cases attends
        exact .inr ⟨error, rfl, rfl, rfl, stands⟩

namespace Plan

/-- The calls that configure groups where the groups stand as they do, if some group was configured
before them. -/
def groupCalls (component : Component) (old : List UnitGroup) :
    Option String → List DeclaredGroup → List Call
  | _, [] => []
  | previous, declared :: rest =>
    .getGroup declared.id ::
      ((old.find? fun group => group.id = declared.id).toList.map fun group =>
        .updateGroup declared.id (declared.applyTo component group)) ++
      (previous.toList.map fun anchor => .reorderGroup declared.id (.after anchor)) ++
      groupCalls component old (some declared.id) rest

/-- The name of the last of some groups. -/
def lastId? (done : List DeclaredGroup) : Option String :=
  done.getLast?.map DeclaredGroup.id

/-- How the configuration of groups ends, if some have been configured before them: the calls that
were made, those of them that have failed, the outcome, and how the groups stand in the end. -/
inductive Configured (component : Component) (old : List UnitGroup)
    (done declared : List DeclaredGroup) :
    List Call → List Call → Except Failure Unit → List UnitGroup → Prop where
  /-- No call has failed, and all of them are configured. -/
  | whole {now : List UnitGroup} (arranged : Arranged component (done ++ declared) old now) :
      Configured component old done declared (groupCalls component old (lastId? done) declared) []
        (.ok ()) now
  /-- The last call has failed.  It is about one of the groups, no call was made about those behind
  it, and they are neither changed nor moved. -/
  | brokenOff (earlier later : List DeclaredGroup) (failing : DeclaredGroup) {calls : List Call}
      {call : Call} {error : ManagerError} {now : List UnitGroup}
      (split : declared = earlier ++ failing :: later)
      (reached :
        groupCalls component old (lastId? done) earlier ++ [.getGroup failing.id] <+: calls)
      (asked : calls <+: groupCalls component old (lastId? done) (earlier ++ [failing]))
      (last : calls.getLast? = some call)
      (spares : Spares ((done ++ earlier ++ [failing]).map DeclaredGroup.id)
        ((done ++ earlier ++ [failing]).map DeclaredGroup.id).tail old now) :
      Configured component old done declared calls [call]
        (.error (.call call.operation (some component) (some failing.id) error)) now

variable {component : Component} {old middle now : List UnitGroup}
  {done declared rest : List DeclaredGroup} {group : DeclaredGroup} {own : History}
  {failed : List Call} {outcome : Except Failure Unit}

/-- The last id is that of the last group. -/
@[simp]
theorem lastId?_snoc : lastId? (done ++ [group]) = some group.id := by
  simp [lastId?]

/-- In front of the groups there is one that was configured with all its calls. -/
theorem Configured.cons {made calls : List Call}
    (called : ∀ others, groupCalls component old (lastId? done) (group :: others) =
      made ++ groupCalls component old (some group.id) others)
    (configured : Configured component old (done ++ [group]) rest calls failed outcome now) :
    Configured component old done (group :: rest) (made ++ calls) failed outcome now := by
  cases configured with
  | whole arranged =>
    rw [lastId?_snoc, ← called]
    exact .whole (by simpa using arranged)
  | brokenOff earlier later failing split reached asked last spares =>
    rw [lastId?_snoc] at reached asked
    refine .brokenOff (group :: earlier) later failing (by rw [split]; rfl) ?_ ?_ ?_
      (by simpa using spares)
    · rw [called, List.append_assoc]
      exact (List.prefix_append_right_inj _).2 reached
    · rw [List.cons_append, called]
      exact (List.prefix_append_right_inj _).2 asked
    · rw [List.getLast?_append, last]
      rfl

/-- A call about the first of the groups has failed. -/
theorem Configured.here {calls : List Call} {call : Call} {error : ManagerError}
    (reached : [.getGroup group.id] <+: calls)
    (asked : calls <+: groupCalls component old (lastId? done) [group])
    (last : calls.getLast? = some call)
    (spares : Spares ((done ++ [group]).map DeclaredGroup.id)
      ((done ++ [group]).map DeclaredGroup.id).tail old now) :
    Configured component old done (group :: rest) calls [call]
      (.error (.call call.operation (some component) (some group.id) error)) now :=
  .brokenOff [] rest group rfl reached asked last (by simpa using spares)

/-- The calls about a group: it is fetched, written back and, if one was configured before it,
moved. -/
def turnCalls (component : Component) (previous : Option String) (group : DeclaredGroup)
    (fetched : UnitGroup) : List Call :=
  [.getGroup group.id, .updateGroup group.id (group.applyTo component fetched)] ++
    previous.toList.map fun anchor => .reorderGroup group.id (.after anchor)

/-- The calls for some groups are those for the first one and then those for the others. -/
theorem groupCalls_cons {fetched : UnitGroup} {previous : Option String}
    (found : (old.find? fun other => other.id = group.id) = some fetched)
    (others : List DeclaredGroup) :
    groupCalls component old previous (group :: others) =
      turnCalls component previous group fetched ++
        groupCalls component old (some group.id) others := by
  simp [groupCalls, turnCalls, found]

/-- What is fetched of a group that has not had its turn yet is what stood at first. -/
theorem Overwritten.find?_eq {fetched : UnitGroup} (written : Overwritten component done old now)
    (distinct : (old.map UnitGroup.id).Nodup) (there : fetched ∈ now)
    (named : fetched.id = group.id) (pending : group.id ∉ done.map DeclaredGroup.id) :
    (old.find? fun other => other.id = group.id) = some fetched := by
  obtain ⟨first, member, rfl⟩ := List.mem_map.1 (written.configured.mem_iff.1 there)
  rw [overwritten_id] at named
  rw [overwritten_of_not_mem (named ▸ pending), ← named]
  exact Fabric.find?_of_mem distinct member

/-- The group that was fetched is written back with its declared options, and no other one is. -/
theorem carryOut_writeBack {fabric : Fabric} {fetched : UnitGroup}
    (distinct : (fabric.groups.map UnitGroup.id).Nodup) (member : fetched ∈ fabric.groups)
    (named : fetched.id = group.id) :
    ∃ reply, (fabric.carryOut (.updateGroup group.id (group.applyTo component fetched))).1 =
        .ok reply ∧
      (fabric.carryOut (.updateGroup group.id (group.applyTo component fetched))).2.groups =
        fabric.groups.map (group.turn component) := by
  have there : group.id ∈ fabric.groups.map UnitGroup.id := List.mem_map.2 ⟨fetched, member, named⟩
  obtain ⟨replied, stands⟩ := Fabric.carryOut_updateGroup distinct there
    (group.applyTo component fetched)
  refine ⟨_, replied, stands.trans (List.map_congr_left fun other otherMember => ?_)⟩
  unfold DeclaredGroup.turn
  split
  case isTrue same =>
    rw [List.inj_on_of_nodup_map distinct otherMember member (same.trans named.symm)]
  case isFalse => rfl

/-- Puts a group behind the one that was configured before it, if there is one, and goes on. -/
def placing (component : Component) (previous : Option String) (group : DeclaredGroup)
    (next : Procedure Unit) : Procedure Unit :=
  match previous with
  | none => next
  | some anchor =>
    Procedure.perform (.reorderGroup group.id (.after anchor)) (some component) (some group.id) >>=
      fun _ => next

/-- The groups are configured one after the other: each is got, put back and placed behind the one
before. -/
theorem configureGroupsAfter_cons (component : Component) (previous : Option String)
    (group : DeclaredGroup) (rest : List DeclaredGroup) :
    configureGroupsAfter component previous (group :: rest) =
      Procedure.perform (.getGroup group.id) (some component) (some group.id) >>= fun fetched =>
        Procedure.perform (.updateGroup group.id (group.applyTo component fetched)) (some component)
          (some group.id) >>= fun _ =>
            placing component previous group
              (configureGroupsAfter component (some group.id) rest) := by
  cases previous <;> rfl

/-- A group is fetched and written back with its declared options, or one of the two calls fails and
nothing else is done. -/
theorem written_or_brokenOff (distinct : (old.map UnitGroup.id).Nodup)
    (there : group.id ∈ old.map UnitGroup.id) (pending : group.id ∉ done.map DeclaredGroup.id)
    (written : Overwritten component done old middle)
    (converses : Converses (configureGroupsAfter component (lastId? done) (group :: rest)).run own
      outcome)
    (attends : Attends middle own failed now) :
    Configured component old done (group :: rest) (calls own) failed outcome now ∨
      ∃ fetched later, (old.find? fun other => other.id = group.id) = some fetched ∧
        calls own = [.getGroup group.id, .updateGroup group.id (group.applyTo component fetched)] ++
          calls later ∧
        Converses (placing component (lastId? done) group
          (configureGroupsAfter component (some group.id) rest)).run later outcome ∧
        Attends (middle.map (group.turn component)) later failed now := by
  have sameIds := written.spares.sameIds
  have distinctNow := sameIds.nodup_iff.2 distinct
  have thereNow := sameIds.mem_iff.2 there
  have untouched := written.spares_snoc group
  have turned := (written.turn group).spares
  rw [configureGroupsAfter_cons] at converses
  rcases performed converses attends
      (fun (fetched : UnitGroup) groups =>
        fetched ∈ middle ∧ fetched.id = group.id ∧ middle = groups)
      (by
        rintro fabric rfl
        obtain ⟨fetched, member, named, carried⟩ := Fabric.carryOut_getGroup distinctNow thereNow
        exact ⟨fetched, congrArg Prod.fst carried, member, named,
          (congrArg (fun served => Fabric.groups served.2) carried).symm⟩) with
    ⟨fetched, own, _, rfl, ⟨member, named, rfl⟩, converses, attends⟩ |
      ⟨error, rfl, rfl, rfl, stands⟩
  · have found := written.find?_eq distinct member named pending
    rcases performed converses attends (fun _ groups => groups = middle.map (group.turn component))
        (by
          rintro fabric rfl
          exact carryOut_writeBack distinctNow member named) with
      ⟨_, own, _, rfl, rfl, converses, attends⟩ | ⟨error, rfl, rfl, rfl, stands⟩
    · exact .inr ⟨fetched, own, found, rfl, converses, attends⟩
    · left
      refine .here ⟨_, rfl⟩ ?_ rfl ?_
      · rw [groupCalls_cons found]
        exact ⟨_, rfl⟩
      · rcases stands with rfl | ⟨_, rfl⟩
        · exact untouched
        · exact turned
  · left
    refine .here ⟨_, rfl⟩ ⟨_, rfl⟩ rfl ?_
    rcases stands with rfl | ⟨_, _, _, rfl⟩ <;> exact untouched

/-- A group behind others is moved behind the last of them, or the call fails and nothing else is
done. -/
theorem placed_or_brokenOff {earlier : List DeclaredGroup} {anchored : DeclaredGroup}
    (distinct : (old.map UnitGroup.id).Nodup) (there : group.id ∈ old.map UnitGroup.id)
    (pending : group.id ∉ (earlier ++ [anchored]).map DeclaredGroup.id)
    (arranged : Arranged component (earlier ++ [anchored]) old middle) {next : Procedure Unit}
    (converses : Converses (placing component (some anchored.id) group next).run own outcome)
    (attends : Attends (middle.map (group.turn component)) own failed now) :
    (calls own = [.reorderGroup group.id (.after anchored.id)] ∧
      (∃ error, outcome = .error (.call .groupReorder (some component) (some group.id) error)) ∧
        failed = [.reorderGroup group.id (.after anchored.id)] ∧
          Overwritten component (earlier ++ [anchored] ++ [group]) old now) ∨
      ∃ later moved, calls own = [.reorderGroup group.id (.after anchored.id)] ++ calls later ∧
        Converses next.run later outcome ∧ Attends moved later failed now ∧
        Arranged component (earlier ++ [anchored] ++ [group]) old moved := by
  have turned := arranged.turn group
  have distinctNow := turned.spares.sameIds.nodup_iff.2 distinct
  have thereNow := turned.spares.sameIds.mem_iff.2 there
  have anchorNow : anchored.id ∈ (middle.map (group.turn component)).map UnitGroup.id := by
    rw [map_turn_id]
    exact arranged.together.subset (by simp)
  have different : anchored.id ≠ group.id := fun same => pending (by simp [same])
  have distinctBefore : (middle.map UnitGroup.id).Nodup :=
    map_turn_id middle group component ▸ distinctNow
  rcases performed converses attends
      (fun _ now => Fabric.MovedBehind anchored.id group.id (middle.map (group.turn component)) now)
      (by
        intro fabric stands
        rw [← stands] at distinctNow thereNow anchorNow ⊢
        obtain ⟨replied, moved⟩ :=
          Fabric.carryOut_reorderGroup distinctNow thereNow anchorNow different
        exact ⟨(), replied, moved⟩) with
    ⟨_, later, moved, rfl, moves, converses, attends⟩ | ⟨error, rfl, rfl, rfl, stands⟩
  · exact .inr ⟨later, moved, rfl, converses, attends, arranged.snoc distinctBefore pending moves⟩
  · refine .inl ⟨rfl, ⟨error, rfl⟩, rfl, ?_⟩
    rcases stands with rfl | ⟨_, moves⟩
    · exact turned
    · exact turned.move (by simp) moves

/-- Configures groups behind others that are configured. -/
theorem configureGroupsAfter_configured (distinct : (old.map UnitGroup.id).Nodup)
    (different : ((done ++ declared).map DeclaredGroup.id).Nodup)
    (exist : ∀ group ∈ declared, group.id ∈ old.map UnitGroup.id)
    (arranged : Arranged component done old middle)
    (converses : Converses (configureGroupsAfter component (lastId? done) declared).run own outcome)
    (attends : Attends middle own failed now) :
    Configured component old done declared (calls own) failed outcome now := by
  induction declared generalizing done middle own with
  | nil =>
    cases converses
    cases attends
    exact .whole (by rwa [List.append_nil])
  | cons group rest inductionHypothesis =>
    have there := exist group List.mem_cons_self
    have existLater := fun other member => exist other (List.mem_cons_of_mem _ member)
    have pending : group.id ∉ done.map DeclaredGroup.id := by
      rw [List.map_append, List.map_cons] at different
      exact fun member => (List.nodup_cons.1 (List.nodup_middle.1 different)).1
        (List.mem_append_left _ member)
    have differentLater : ((done ++ [group] ++ rest).map DeclaredGroup.id).Nodup := by
      simpa using different
    rcases written_or_brokenOff distinct there pending arranged.toOverwritten converses attends with
      broken | ⟨fetched, later, found, called, converses, attends⟩
    · exact broken
    · rw [called]
      rcases List.eq_nil_or_concat' done with rfl | ⟨earlier, anchored, rfl⟩
      · refine .cons (groupCalls_cons found) ?_
        have first := arranged.first (arranged.spares.sameIds.mem_iff.2 there)
        exact inductionHypothesis differentLater existLater first converses attends
      · rw [lastId?_snoc] at converses
        rcases placed_or_brokenOff distinct there pending arranged converses attends with
          ⟨placed, ⟨error, rfl⟩, rfl, written⟩ |
            ⟨later, moved, placed, converses, attends, arranged⟩
        · rw [placed]
          refine .here ⟨_, rfl⟩ ?_ rfl written.spares
          rw [lastId?_snoc, groupCalls_cons found]
          exact ⟨_, rfl⟩
        · rw [placed, ← List.append_assoc]
          refine .cons (fun others => ?_)
            (inductionHypothesis differentLater existLater arranged ?_ attends)
          · rw [lastId?_snoc]
            exact groupCalls_cons found others
          · rwa [lastId?_snoc]

/-- To configure groups is to make calls and to do nothing else. -/
theorem configureGroupsAfter_only {previous : Option String} :
    Only (fun asked => ∃ call, asked = .call call)
      (configureGroupsAfter component previous declared).run := by
  have makes {call : Call} {target : Option String} :
      Only (fun asked => ∃ call, asked = .call call)
        (Procedure.perform call (some component) target).run := by
    intro past
    exact Procedure.obeys_perform ⟨call, rfl⟩ (fun _ => trivial) fun _ => trivial
  induction declared generalizing previous with
  | nil => exact only_done _
  | cons group rest inductionHypothesis =>
    rw [configureGroupsAfter_cons]
    refine only_bind makes fun fetched => only_bind makes fun _ => ?_
    cases previous with
    | none => exact inductionHypothesis
    | some anchor => exact only_bind makes fun _ => inductionHypothesis

end Plan

namespace Spec

variable {spec : Spec}

/-- The groups that an accepted run declares of a component have names of their own. -/
theorem nodup_of_fault? (accepted : spec.fault? = none) {component : Component}
    {plan : ComponentPlan} (declares : spec.toRun.plan? component = some plan) :
    (plan.groups.map DeclaredGroup.id).Nodup := by
  cases component with
  | edge =>
    obtain rfl := Option.some.inj declares
    simp only [toRun, List.map_map]
    exact (keeps_of_fault? accepted none .edgeGroups (by decide)).distinct
  | host =>
    obtain rfl := Option.some.inj declares
    simp only [toRun, List.map_map]
    exact (keeps_of_fault? accepted none .hostGroups (by decide)).distinct
  | management => cases declares

end Spec

namespace Plan

/-- The groups that an accepted run declares of a component have names of their own.  To configure
such groups, wherever groups of their names are, makes calls and does nothing else: each is fetched,
written back and, from the second on, put behind the one before it.  If no call fails they stand
together in the end, in their order and with their declared options, and the others are unchanged
and, together with the first of them, in the order they were in.  If one fails it is the last one,
and the groups behind the one that it is about are not fetched, not changed and not moved. -/
theorem configureGroups_arranges :
    (∀ spec : Spec, spec.fault? = none → ∀ component plan,
      spec.toRun.plan? component = some plan → (plan.groups.map DeclaredGroup.id).Nodup) ∧
    ∀ {component : Component} {declared : List DeclaredGroup} {old now : List UnitGroup}
      {own : History} {failed : List Call} {outcome : Except Failure Unit},
      (old.map UnitGroup.id).Nodup → (declared.map DeclaredGroup.id).Nodup →
      (∀ group ∈ declared, group.id ∈ old.map UnitGroup.id) →
      Converses (configureGroups component declared).run own outcome → Attends old own failed now →
        (∀ exchange ∈ own, ∃ call, exchange.question = .call call) ∧
          Configured component old [] declared (calls own) failed outcome now := by
  refine ⟨fun spec accepted component plan declares => Spec.nodup_of_fault? accepted declares, ?_⟩
  intro component declared old now own failed outcome distinct different exist converses attends
  refine ⟨fun exchange member => ?_, ?_⟩
  · obtain ⟨first, second, rfl⟩ := List.append_of_mem member
    exact (configureGroupsAfter_only []).permits (converses_iff_reaches_done.1 converses).asks
  · exact configureGroupsAfter_configured distinct different exist (arranged_nil old) converses
      attends

/-- A stage with a fabric of four groups. -/
def rowStage : Stage Fabric :=
  { manager := { groups := ["a", "x", "c", "b"].map fun id => { id, type := "EDGE" } } }

/-- A group is declared behind one that stands behind it. -/
def rowDeclared : List DeclaredGroup :=
  [{ id := "c" }, { id := "a" }]

/-- The group comes to stand right behind the one that it is declared behind. -/
theorem configureGroups_arranges_backwards :
    (rowStage.manager.groups.map UnitGroup.id).Nodup ∧
      (rowDeclared.map DeclaredGroup.id).Nodup ∧
      (∀ group ∈ rowDeclared, group.id ∈ rowStage.manager.groups.map UnitGroup.id) ∧
      ∃ own failed outcome now, Converses (configureGroups .edge rowDeclared).run own outcome ∧
        Attends rowStage.manager.groups own failed now ∧
        Configured .edge rowStage.manager.groups [] rowDeclared (calls own) failed outcome now ∧
        now.map UnitGroup.id = ["x", "c", "a", "b"] := by
  have distinct : (rowStage.manager.groups.map UnitGroup.id).Nodup := by decide +kernel
  have different : (rowDeclared.map DeclaredGroup.id).Nodup := by decide +kernel
  have exist : ∀ group ∈ rowDeclared, group.id ∈ rowStage.manager.groups.map UnitGroup.id := by
    decide +kernel
  have ended : (rowStage.hold Fabric.answer
      (configureGroups .edge rowDeclared).run).2.manager.groups.map UnitGroup.id =
        ["x", "c", "a", "b"] := by
    decide +kernel
  obtain ⟨own, failed, converses, attends⟩ :=
    exists_attends_hold rowStage (configureGroups .edge rowDeclared).run
  exact ⟨distinct, different, exist, own, failed, _, _, converses, attends,
    (configureGroups_arranges.2 distinct different exist converses attends).2, ended⟩

end Plan

end FabricUpgrade
