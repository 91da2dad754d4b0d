import FabricUpgrade.Proofs.Course
import FabricUpgrade.Proofs.Execution

/-!
# The order of a run

`Session.InOrder` says what may be asked when, for a run as a whole: components are addressed one
after the other, each once those before it are finished, the management plane not at all after a
component that was upgraded in part, and checks come last.  Between two turns `Run.Between` holds;
a turn that begins there asks only what is in order (`Run.inOrder_of_inTurn`) and leads there again.
-/

namespace FabricUpgrade

open Program Session

namespace Session

/-- The question is about the component.  Groups carry no component: a call about a group is about
the component that is being prepared. -/
def Addresses (past : History) (component : Component) : Question → Prop
  | .call (.getStatus asked) => asked = some component
  | .call (.reset other) | .call (.upgrade other)
  | .call (.getSettings other) | .call (.updateSettings other _) => other = component
  | .call (.getGroup _) | .call (.updateGroup _ _) | .call (.reorderGroup _ _) =>
    Preparing component past
  | _ => False

/-- Whether it is asked whether to stop. -/
def Question.isStop : Question → Bool
  | .stopRequested => true
  | _ => false

/-- The component whose check is started. -/
def Question.checked? : Question → Option Component
  | .call (.checkUpgraded component) => some component
  | _ => none

/-- The component whose check could be started. -/
def accepted? : Exchange Question Answer → Option Component
  | ⟨.call (.checkUpgraded component), .ok _⟩ => some component
  | _ => none

/-- How many turns have come up: in front of each it is asked whether to stop. -/
def turns (past : History) : Nat :=
  past.countP fun exchange => exchange.question.isStop

/-- The components whose checks were started, or tried to be. -/
def checked (past : History) : List Component :=
  past.filterMap fun exchange => exchange.question.checked?

/-- The components whose checks could be started. -/
def accepted (past : History) : List Component :=
  past.filterMap accepted?

/-- The component was seen upgraded, or seen paused after its launch where its declared groups leave
a part of it for later. -/
def Finished (run : Run) (component : Component) (past : History) : Prop :=
  ∃ earlier probe later observed, past = earlier ++ probe :: later ∧
    Shows (some component) probe observed ∧
    (observed.status = .success ∨
      run.isPartial component = true ∧ observed.status = .paused ∧ Launched component earlier)

/-- A component was launched whose declared groups leave a part of it for later. -/
def LeavesPart (run : Run) (past : History) : Prop :=
  ∃ component, Launched component past ∧ run.isPartial component = true

/-- A component is done with: it is finished, or it is the management plane and was left out. -/
def Ended (run : Run) (component : Component) (past : History) : Prop :=
  Finished run component past ∨ component = .management ∧ LeavesPart run past

end Session

/-- The settings that are declared of a component ask for its check. -/
def Run.DeclaresCheck (run : Run) (component : Component) : Prop :=
  ∃ plan settings, run.plan? component = some plan ∧ plan.settings = some settings ∧
    settings.postUpgradeCheck = true

/-- The question is in order at the moment it is asked. -/
structure Session.InOrder (run : Run) (past : History) (question : Question) : Prop where
  /-- Whatever was addressed before comes no later in the order of the upgrades. -/
  forward : ∀ component, Addresses past component question →
    Throughout (fun earlier exchange => ∀ other, Addresses earlier other exchange.question →
      other ≤ component) past
  /-- The components in front of the one that is addressed are finished. -/
  finished : ∀ component, Addresses past component question →
    ∀ other, ¬ component ≤ other → Finished run other past
  /-- A component is reset once and launched once. -/
  once : Replans question → ∀ exchange ∈ past, exchange.question ≠ question
  /-- What is configured is configured for a component that can be configured. -/
  attributed : ∀ call, question = .call call → call.configures = true →
    ∃ component, component.customizable = true ∧ Addresses past component question
  /-- The management plane is looked at and launched, and that is all. -/
  management : Addresses past .management question →
    question = .call (.getStatus (some .management)) ∨ question = .call (.upgrade .management)
  /-- The management plane is not addressed after a component that was upgraded in part. -/
  gate : Addresses past .management question → ¬ LeavesPart run past
  /-- Only checks come after a management plane that was left out. -/
  skipping : turns past = Component.ordered.length → LeavesPart run past →
    question.checked?.isSome
  /-- A pause comes right after a look at a component that can be made to pause. -/
  pausing : question = .call .pause → ∃ component earlier probe, component.customizable = true ∧
    past = earlier ++ [probe] ∧ probe.question = .call (.getStatus (some component))
  /-- A turn that was not stopped begins with a look at its component, unless it is left out. -/
  opening : ∀ earlier component, past = earlier ++ [⟨.stopRequested, false⟩] →
    Component.ordered[turns earlier]? = some component →
    question = .call (.getStatus (some component)) ∨
      component = .management ∧ LeavesPart run past
  /-- Checks that are declared are started in order, once all components are done with. -/
  checks : ∀ component, question = .call (.checkUpgraded component) →
    run.DeclaresCheck component ∧ (∀ other ∈ checked past, ¬ component ≤ other) ∧
      ∀ other, Ended run other past
  /-- After a check only checks are asked for. -/
  closing : checked past ≠ [] → question.checked?.isSome

/-- How a run may end after its exchanges. -/
structure Session.Concluded (run : Run) (exchanges : History) (result : Except Failure Report) :
    Prop where
  /-- A run that fails has started no check. -/
  failed : ∀ failure, result = .error failure → checked exchanges = []
  ended : ∀ report, result = .ok report → ∀ component, Ended run component exchanges
  /-- The report tells whether a component was upgraded in part. -/
  leaves : ∀ report, result = .ok report → (report.isPartial = true ↔ LeavesPart run exchanges)
  /-- The declared checks were started in order, whatever the answers, and no other ones. -/
  checks : ∀ report, result = .ok report →
    (checked exchanges).Pairwise (fun first second => ¬ second ≤ first) ∧
      ∀ component, component ∈ checked exchanges ↔ run.DeclaresCheck component
  /-- The report lists the checks that could be started. -/
  reported : ∀ report, result = .ok report → report.postChecks = accepted exchanges

namespace Session

variable {run : Run} {component other : Component} {past during : History} {question : Question}
  {exchange : Exchange Question Answer}

/-!
## What stays as a history grows
-/

/-- What is finished stays finished. -/
theorem Finished.append (finished : Finished run component past) (more : History) :
    Finished run component (past ++ more) := by
  obtain ⟨earlier, probe, later, observed, rfl, shows, ends⟩ := finished
  exact ⟨earlier, probe, later ++ more, observed, by simp, shows, ends⟩

/-- A part that is left for later stays left. -/
theorem LeavesPart.snoc (leaves : LeavesPart run past) : LeavesPart run (past ++ [exchange]) := by
  obtain ⟨component, launched, isPartial⟩ := leaves
  exact ⟨component, launched.snoc, isPartial⟩

/-- What is done with stays done with. -/
theorem Ended.snoc (ended : Ended run component past) : Ended run component (past ++ [exchange]) := by
  rcases ended with finished | ⟨management, leaves⟩
  · exact .inl (finished.append _)
  · exact .inr ⟨management, leaves.snoc⟩

/-- The turns of two stretches add up. -/
@[simp]
theorem turns_append (past later : History) : turns (past ++ later) = turns past + turns later :=
  List.countP_append

/-- The checks of two stretches are those of the one and then those of the other. -/
@[simp]
theorem checked_append (past later : History) :
    checked (past ++ later) = checked past ++ checked later :=
  List.filterMap_append

/-- The accepted checks of two stretches are those of the one and then those of the other. -/
@[simp]
theorem accepted_append (past later : History) :
    accepted (past ++ later) = accepted past ++ accepted later :=
  List.filterMap_append

/-- A component was launched in two stretches exactly if it was in one of them. -/
theorem Launched.append_iff {later : History} :
    Launched component (past ++ later) ↔ Launched component past ∨ Launched component later := by
  constructor
  · rintro ⟨launch, member, launches⟩
    rcases List.mem_append.1 member with old | new
    · exact .inl ⟨launch, old, launches⟩
    · exact .inr ⟨launch, new, launches⟩
  · rintro (⟨launch, member, launches⟩ | ⟨launch, member, launches⟩)
    · exact ⟨launch, List.mem_append_left _ member, launches⟩
    · exact ⟨launch, List.mem_append_right _ member, launches⟩

/-- A group belongs to no component but the one whose plan was reset last. -/
theorem Preparing.append (preparing : Preparing component during) (before : History) :
    Preparing component (before ++ during) := by
  obtain ⟨earlier, reset, since, rfl, resets, unplanned⟩ := preparing
  exact ⟨before ++ earlier, reset, since, by simp, resets, unplanned⟩

/-!
## What is asked in a turn
-/

namespace InTurn

variable (inTurn : InTurn component during question)

include inTurn

/-- In a turn it is not asked whether to stop. -/
theorem not_stop : question.isStop = false := by
  cases inTurn with
  | waiting _ waits => cases waits <;> rfl
  | pausing => rfl
  | resetting => rfl
  | configuring _ _ _ _ => rfl
  | launching => rfl

/-- In a turn no check is started. -/
theorem not_checked : question.checked? = none := by
  cases inTurn with
  | waiting _ waits => cases waits <;> rfl
  | pausing => rfl
  | resetting => rfl
  | @configuring call _ configures _ _ => cases call <;> first | rfl | cases configures
  | launching => rfl

/-- A turn addresses its own component. -/
theorem addressed (before : History) (addresses : Addresses (before ++ during) other question) :
    other = component := by
  cases inTurn with
  | waiting within waits =>
    cases waits with
    | probe => exact within other addresses
    | now => cases addresses
    | sleep _ => cases addresses
  | pausing => cases addresses
  | resetting => exact addresses.symm
  | @configuring call _ configures within preparing =>
    cases call with
    | getGroup _ => exact Preparing.unique addresses (preparing.append before)
    | updateGroup _ _ => exact Preparing.unique addresses (preparing.append before)
    | reorderGroup _ _ => exact Preparing.unique addresses (preparing.append before)
    | getSettings asked => exact within other (congrArg some addresses)
    | updateSettings asked _ => exact within other (congrArg some addresses)
    | _ => cases configures
  | launching => exact addresses.symm

/-- A turn launches its own component only. -/
theorem launches_own (launches : question = .call (.upgrade other)) : other = component := by
  subst launches
  exact addressed inTurn [] rfl

/-- What is reset or launched in a turn was neither before, in that turn. -/
theorem once (replans : Replans question) : ∀ exchange ∈ during, exchange.question ≠ question := by
  intro exchange member
  cases inTurn with
  | waiting _ waits => exact absurd replans waits.not_replans
  | pausing => obtain ⟨_, same | same⟩ := replans <;> cases same
  | resetting _ unplanned =>
    intro same
    exact unplanned exchange member ⟨component, .inl same⟩
  | configuring _ configures _ _ => exact absurd replans (not_replans_of_configures configures)
  | launching unlaunched => exact unlaunched exchange member

/-- The management plane is looked at and launched, since it can be neither reset nor configured. -/
theorem of_management (fixed : component.customizable = false)
    (addresses : Addresses (past ++ during) component question) :
    question = .call (.getStatus (some component)) ∨ question = .call (.upgrade component) := by
  cases inTurn with
  | waiting _ waits =>
    cases waits with
    | probe => exact .inl (by rw [show _ = some component from addresses])
    | now => cases addresses
    | sleep _ => cases addresses
  | pausing => cases addresses
  | resetting customizable _ => exact absurd customizable (by simp [fixed])
  | configuring customizable _ _ _ => exact absurd customizable (by simp [fixed])
  | launching => exact .inr rfl

/-- A turn that pauses the upgrade has just looked at its component, which can be configured. -/
theorem of_pause (pauses : question = .call .pause) : component.customizable = true ∧
    ∃ earlier probe, during = earlier ++ [probe] ∧
      probe.question = .call (.getStatus (some component)) := by
  subst pauses
  cases inTurn with
  | waiting _ waits => cases waits
  | pausing customizable last probes => exact ⟨customizable, _, _, last, probes⟩
  | configuring _ configures _ _ => cases configures

/-- What a turn configures is configured for its own component, which can be configured. -/
theorem attributed {call : Call} (calls : question = .call call) (configures : call.configures = true)
    (before : History) :
    component.customizable = true ∧ Addresses (before ++ during) component question := by
  subst calls
  cases inTurn with
  | waiting _ waits => cases waits; cases configures
  | pausing => cases configures
  | resetting => cases configures
  | configuring customizable _ within preparing =>
    refine ⟨customizable, ?_⟩
    cases call with
    | getGroup _ => exact preparing.append before
    | updateGroup _ _ => exact preparing.append before
    | reorderGroup _ _ => exact preparing.append before
    | getSettings asked => exact within asked rfl
    | updateSettings asked _ => exact within asked rfl
    | _ => cases configures
  | launching => cases configures

end InTurn

/-- Every question of a turn that keeps to its course has what every question in turn has. -/
theorem OnCourse.mem (property : Question → Prop) (onCourse : OnCourse component during)
    (implies : ∀ earlier asked, InTurn component earlier asked → property asked)
    (member : exchange ∈ during) : property exchange.question :=
  Throughout.mem (fun asked => property asked.question)
    (onCourse.mono fun earlier _ inTurn => implies earlier _ inTurn) member

/-- On its course a turn does not open another one. -/
theorem OnCourse.turns_eq (onCourse : OnCourse component during) : turns during = 0 := by
  rw [turns, List.countP_eq_zero]
  intro exchange member
  rw [onCourse.mem (fun asked => asked.isStop = false) (fun _ _ => InTurn.not_stop) member]
  exact Bool.false_ne_true

/-- On its course a turn starts no check. -/
theorem OnCourse.checked_eq (onCourse : OnCourse component during) : checked during = [] := by
  rw [checked, List.filterMap_eq_nil_iff]
  intro exchange member
  exact onCourse.mem (fun asked => asked.checked? = none)
    (fun _ _ => InTurn.not_checked) member

/-- On its course a turn launches its own component only. -/
theorem OnCourse.launched (onCourse : OnCourse component during) (launched : Launched other during) :
    other = component := by
  obtain ⟨_, member, reply, rfl⟩ := launched
  exact onCourse.mem (fun asked => asked = .call (.upgrade other) → other = component)
    (fun _ _ inTurn => inTurn.launches_own) member rfl

/-- A turn does not end by asking whether to stop. -/
theorem OnCourse.not_asked_last {before earlier : History} {stop : Bool}
    (onCourse : OnCourse component during) (asked : during ≠ []) :
    before ++ during ≠ earlier ++ [⟨.stopRequested, stop⟩] := by
  intro last
  rcases during.eq_nil_or_concat with none | ⟨own, exchange, more⟩
  · exact asked none
  · rw [List.concat_eq_append] at more
    subst more
    obtain ⟨-, same⟩ := List.append_inj' ((List.append_assoc _ _ _).trans last) rfl
    obtain rfl := List.singleton_inj.1 same
    have quiet := onCourse.mem (fun asked => asked.isStop = false)
      (fun _ _ => InTurn.not_stop) (List.mem_append_right own (List.mem_singleton_self _))
    cases quiet

/-!
## What holds between turns
-/

/-- Only the listed components have been addressed. -/
def Confined (done : List Component) (past : History) : Prop :=
  Throughout (fun earlier exchange => ∀ component,
    Addresses earlier component exchange.question → component ∈ done) past

namespace Confined

variable {done more : List Component}

/-- What is confined to some components is confined to more of them. -/
theorem mono (confined : Confined done past) (subset : ∀ component ∈ done, component ∈ more) :
    Confined more past :=
  Throughout.mono confined fun _ _ within component addresses =>
    subset component (within component addresses)

/-- A question that addresses no component leaves the confines as they are. -/
theorem snoc (confined : Confined done past)
    (idle : ∀ component, ¬ Addresses past component exchange.question) :
    Confined done (past ++ [exchange]) :=
  throughout_snoc_iff.2 ⟨confined, fun component addresses => absurd addresses (idle component)⟩

/-- A turn adds its component. -/
theorem append (confined : Confined done past) (onCourse : OnCourse component during) :
    Confined (done ++ [component]) (past ++ during) := by
  rw [Confined, throughout_append_iff]
  constructor
  · apply confined.mono
    intro other member
    exact List.mem_append_left _ member
  · refine Throughout.mono onCourse fun earlier exchange inTurn other addresses => ?_
    rw [inTurn.addressed past addresses]
    simp

/-- What was reset or launched was addressed. -/
theorem replanned (confined : Confined done past) (member : exchange ∈ past)
    (replans : exchange.question = .call (.reset component) ∨
      exchange.question = .call (.upgrade component)) : component ∈ done := by
  obtain ⟨earlier, later, split⟩ := List.append_of_mem member
  apply confined earlier exchange later split
  rcases replans with same | same
  · rw [same]
    exact rfl
  · rw [same]
    exact rfl

/-- Only a component within the confines was launched. -/
theorem launched (confined : Confined done past) (launched : Launched component past) :
    component ∈ done := by
  obtain ⟨exchange, member, reply, rfl⟩ := launched
  exact confined.replanned member (.inr rfl)

end Confined

/-- The turns of the listed components are over. -/
structure Stands (run : Run) (done : List Component) (partialSeen : Bool) (past : History) :
    Prop where
  confined : Confined done past
  finished : ∀ component ∈ done,
    Finished run component past ∨ component = .management ∧ partialSeen = true
  leaves : LeavesPart run past ↔ partialSeen = true
  unchecked : checked past = []

/-- The moment between two turns. -/
structure Between (run : Run) (done : List Component) (partialSeen : Bool) (past : History) :
    Prop extends Stands run done partialSeen past where
  turned : turns past = done.length
  /-- Only the turn of a management plane that was left out is over right when it has come up. -/
  opened : ∀ earlier, past = earlier ++ [⟨.stopRequested, false⟩] →
    .management ∈ done ∧ partialSeen = true

/-- Before the first turn nothing has happened. -/
theorem between_nil : Between run [] false [] where
  confined := throughout_nil
  finished component member := by cases member
  leaves := by
    constructor
    · rintro ⟨component, ⟨exchange, member, -⟩, -⟩
      cases member
    · intro partialSeen
      cases partialSeen
  unchecked := rfl
  turned := rfl
  opened earlier same := by simp at same

variable {done rest : List Component} {partialSeen : Bool}

/-- The components whose turns are over are the ones in front. -/
theorem split_cases (split : done ++ component :: rest = Component.ordered) :
    component = .edge ∧ done = [] ∨ component = .host ∧ done = [.edge] ∨
      component = .management ∧ done = [.edge, .host] := by
  rcases done with _ | ⟨first, _ | ⟨second, _ | ⟨third, done⟩⟩⟩ <;>
    simp_all [Component.ordered]

/-- A component whose turn has come has not had one. -/
theorem not_mem_done (split : done ++ component :: rest = Component.ordered) :
    component ∉ done := by
  rcases split_cases split with ⟨rfl, rfl⟩ | ⟨rfl, rfl⟩ | ⟨rfl, rfl⟩ <;> simp

/-- No component whose turn was taken comes later in the order. -/
theorem le_of_mem_done (split : done ++ component :: rest = Component.ordered)
    (member : other ∈ done ++ [component]) : other ≤ component := by
  rcases split_cases split with ⟨rfl, rfl⟩ | ⟨rfl, rfl⟩ | ⟨rfl, rfl⟩ <;>
    cases other <;> simp_all <;> decide

/-- The turns of the components in front are over, and the management plane is none of them. -/
theorem mem_done_of_not_le (split : done ++ component :: rest = Component.ordered)
    (precedes : ¬ component ≤ other) : other ∈ done ∧ other ≠ .management := by
  rcases split_cases split with ⟨rfl, rfl⟩ | ⟨rfl, rfl⟩ | ⟨rfl, rfl⟩ <;>
    cases other <;> first | exact absurd (by decide) precedes | simp

/-- To be asked whether to stop changes nothing of how things stand. -/
theorem Stands.snoc_stop (stands : Stands run done partialSeen past) (stop : Bool) :
    Stands run done partialSeen (past ++ [⟨.stopRequested, stop⟩]) where
  confined := stands.confined.snoc fun _ addresses => addresses
  finished component member := (stands.finished component member).imp_left fun finished =>
    finished.append _
  leaves := by
    rw [← stands.leaves]
    constructor
    · rintro ⟨component, launched, isPartial⟩
      exact ⟨component, launched.of_snoc nofun, isPartial⟩
    · exact LeavesPart.snoc
  unchecked := by
    rw [checked_append, stands.unchecked]
    rfl

/-- It is in order to ask whether to stop. -/
theorem Between.inOrder_stop (between : Between run done partialSeen past)
    (split : done ++ component :: rest = Component.ordered) : InOrder run past .stopRequested where
  forward _ addresses := addresses.elim
  finished _ addresses := addresses.elim
  once := by rintro ⟨component, same | same⟩ <;> cases same
  attributed _ calls := by cases calls
  management addresses := addresses.elim
  gate addresses := addresses.elim
  skipping turned := by
    have short : done.length < Component.ordered.length := by simp [← split]
    rw [← between.turned, turned] at short
    exact absurd short (Nat.lt_irrefl _)
  pausing pauses := by cases pauses
  opening earlier _ opened := by
    have left := (between.opened earlier opened).1
    rcases split_cases split with ⟨-, rfl⟩ | ⟨-, rfl⟩ | ⟨-, rfl⟩ <;> simp at left
  checks _ checks := by cases checks
  closing begun := absurd between.unchecked begun

/-- A turn that has come up. -/
structure Opened (run : Run) (done : List Component) (component : Component) (partialSeen : Bool)
    (past : History) : Prop extends Stands run done partialSeen past where
  turned : turns past = done.length + 1
  driven : ¬ (component = .management ∧ partialSeen = true)

/-- A turn leaves a part for later exactly if one was left before or its component is launched and
declared in part. -/
theorem Opened.leaves_append_iff (opened : Opened run done component partialSeen past)
    (onCourse : OnCourse component during) :
    LeavesPart run (past ++ during) ↔
      partialSeen = true ∨ Launched component during ∧ run.isPartial component = true := by
  rw [← opened.leaves]
  constructor
  · rintro ⟨other, launched, isPartial⟩
    rcases Launched.append_iff.1 launched with before | during
    · exact .inl ⟨other, before, isPartial⟩
    · obtain rfl := onCourse.launched during
      exact .inr ⟨during, isPartial⟩
  · rintro (⟨other, launched, isPartial⟩ | ⟨launched, isPartial⟩)
    · exact ⟨other, Launched.append_iff.2 (.inl launched), isPartial⟩
    · exact ⟨component, Launched.append_iff.2 (.inr launched), isPartial⟩

/-- The turn of the management plane comes up only if nothing was upgraded in part. -/
theorem Opened.not_leaves (opened : Opened run done .management partialSeen past)
    (onCourse : OnCourse .management during) : ¬ LeavesPart run (past ++ during) := by
  rw [opened.leaves_append_iff onCourse]
  rintro (seen | ⟨_, isPartial⟩)
  · exact opened.driven ⟨rfl, seen⟩
  · cases isPartial

/-- It is the turn of its component that has come up. -/
theorem Opened.next {stop : Bool}
    (opened : Opened run done component partialSeen (past ++ [⟨.stopRequested, stop⟩]))
    (split : done ++ component :: rest = Component.ordered) :
    Component.ordered[turns past]? = some component := by
  have turned := opened.turned
  rw [turns_append] at turned
  rw [show turns past = done.length from Nat.succ.inj turned, ← split]
  simp

/-- What is asked in a turn is in order in the run. -/
theorem Opened.inOrder {stop : Bool}
    (opened : Opened run done component partialSeen (past ++ [⟨.stopRequested, stop⟩]))
    (split : done ++ component :: rest = Component.ordered)
    (onCourse : OnCourse component during) (inTurn : InTurn component during question)
    (opens : during = [] → question = .call (.getStatus (some component))) :
    InOrder run (past ++ [⟨.stopRequested, stop⟩] ++ during) question where
  forward addressed addresses := by
    obtain rfl := inTurn.addressed _ addresses
    exact Throughout.mono (opened.confined.append onCourse) fun _ _ within other before =>
      le_of_mem_done split (within other before)
  finished addressed addresses other precedes := by
    obtain rfl := inTurn.addressed _ addresses
    obtain ⟨passed, customizable⟩ := mem_done_of_not_le split precedes
    rcases opened.finished other passed with finished | ⟨management, -⟩
    · exact finished.append during
    · exact absurd management customizable
  once replans exchange member := by
    obtain ⟨other, same⟩ := replans
    obtain rfl : other = component := by
      apply inTurn.addressed (past ++ [⟨.stopRequested, stop⟩])
      rcases same with rfl | rfl
      · exact rfl
      · exact rfl
    rcases List.mem_append.1 member with before | inside
    · intro again
      exact not_mem_done split (opened.confined.replanned before (again ▸ same))
    · exact inTurn.once ⟨other, same⟩ exchange inside
  attributed call calls configures := ⟨component, inTurn.attributed calls configures _⟩
  management addresses := by
    obtain rfl := inTurn.addressed _ addresses
    exact inTurn.of_management rfl addresses
  gate addresses := by
    obtain rfl := inTurn.addressed _ addresses
    exact opened.not_leaves onCourse
  skipping turned leaves := by
    rw [turns_append, opened.turned, onCourse.turns_eq] at turned
    rcases split_cases split with ⟨rfl, rfl⟩ | ⟨rfl, rfl⟩ | ⟨rfl, rfl⟩
    · cases turned
    · cases turned
    · exact absurd leaves (opened.not_leaves onCourse)
  pausing pauses := by
    obtain ⟨customizable, earlier, probe, rfl, probes⟩ := inTurn.of_pause pauses
    exact ⟨component, _, probe, customizable, (List.append_assoc _ _ _).symm, probes⟩
  opening earlier other last first := by
    by_cases none : during = []
    · left
      rw [none, List.append_nil] at last
      obtain ⟨rfl, -⟩ := List.append_inj' last rfl
      rw [opened.next split] at first
      rw [opens none, Option.some.inj first]
    · exact absurd last (onCourse.not_asked_last none)
  checks other checks := by
    subst checks
    cases inTurn.not_checked
  closing begun := by
    refine absurd ?_ begun
    rw [checked_append, opened.unchecked, onCourse.checked_eq]
    rfl

end Session

end FabricUpgrade
