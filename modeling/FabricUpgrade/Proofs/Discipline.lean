import FabricUpgrade.Proofs.Probe
import FabricUpgrade.Upgrade.Execution

/-!
# What may be changed when

A component may be changed only while it is at rest.  `Session.Ready` is what has to have been seen
for that: the component itself, and after it the whole upgrade.  Since groups carry no component, a
group belongs to the component whose plan was reset last, which `Session.Preparing` finds in the
history.  `Session.Disciplined` collects what holds of a call at the moment it is made.
-/

namespace FabricUpgrade

/-- The group that a call changes or moves. -/
def Call.changedGroup? : Call → Option String
  | updateGroup id _ | reorderGroup id _ => some id
  | _ => none

/-- The call reads or changes the groups or the settings of a plan. -/
def Call.configures : Call → Bool
  | getGroup _ | updateGroup _ _ | reorderGroup _ _ | getSettings _ | updateSettings _ _ => true
  | _ => false

/-- The run declares a group of a component. -/
def Run.DeclaresGroup (run : Run) (component : Component) (id : String) : Prop :=
  ∃ plan, run.plan? component = some plan ∧ ∃ declared ∈ plan.groups, declared.id = id

namespace Session

variable {run : Run} {past : History} {component other : Component} {call : Call}
  {exchange : Program.Exchange Question Answer}

/-- The last status request for the component showed it at rest and not yet upgraded, and the last
one about the whole upgrade came after it and showed everything at rest. -/
def Ready (component : Component) (past : History) : Prop :=
  ∃ entry since overall afterwards, LatestProbe (some component) past entry since ∧
    entry.status.isStable = true ∧ entry.status ≠ .success ∧
    LatestProbe none since overall afterwards ∧ overall.status.isStable = true

/-- A component stays ready until its status is asked for again. -/
theorem Ready.snoc (ready : Ready component past)
    (other : ∀ asked, exchange.question ≠ .call (.getStatus asked)) :
    Ready component (past ++ [exchange]) := by
  obtain ⟨entry, since, overall, afterwards, latest, stable, unfinished, whole, settled⟩ := ready
  exact ⟨entry, since ++ [exchange], overall, afterwards ++ [exchange], latest.snoc (other _),
    stable, unfinished, whole.snoc (other _), settled⟩

/-- A component that was last seen upgraded is not ready for a change. -/
theorem Ready.not_success (ready : Ready component past) {observed : Observation} {since : History}
    (latest : LatestProbe (some component) past observed since) : observed.status ≠ .success := by
  obtain ⟨entry, _, _, _, entryLatest, -, unfinished, -⟩ := ready
  obtain ⟨rfl, -⟩ := latest.unique entryLatest
  exact unfinished

/-- The question resets the plan of a component or launches its upgrade. -/
def Replans (question : Question) : Prop :=
  ∃ component, question = .call (.reset component) ∨ question = .call (.upgrade component)

/-- The plan of the component was reset, and since then no plan was reset and nothing launched. -/
def Preparing (component : Component) (past : History) : Prop :=
  ∃ earlier reset since, past = earlier ++ reset :: since ∧
    reset.question = .call (.reset component) ∧ ∀ exchange ∈ since, ¬ Replans exchange.question

namespace Preparing

/-- A reset begins the preparation of its component. -/
theorem of_reset (reset : exchange.question = .call (.reset component)) :
    Preparing component (past ++ [exchange]) :=
  ⟨past, exchange, [], rfl, reset, by simp⟩

/-- A component stays in preparation until something is reset or launched. -/
theorem snoc (preparing : Preparing component past) (keeps : ¬ Replans exchange.question) :
    Preparing component (past ++ [exchange]) := by
  obtain ⟨earlier, reset, since, rfl, resets, unplanned⟩ := preparing
  refine ⟨earlier, reset, since ++ [exchange], by simp, resets, fun later member => ?_⟩
  rcases List.mem_append.1 member with old | new
  · exact unplanned later old
  · rw [List.mem_singleton.1 new]
    exact keeps

/-- One component at a time is being prepared. -/
theorem unique (preparing : Preparing component past) (also : Preparing other past) :
    component = other := by
  obtain ⟨earlier, reset, since, rfl, resets, unplanned⟩ := preparing
  obtain ⟨before, again, afterwards, same, resetsAgain, unplannedAgain⟩ := also
  have replans : Replans reset.question := ⟨component, .inl resets⟩
  have replansAgain : Replans again.question := ⟨other, .inl resetsAgain⟩
  obtain ⟨rfl, -⟩ := last_split_unique same replans replansAgain unplanned unplannedAgain
  rw [resets] at resetsAgain
  cases resetsAgain
  rfl

end Preparing

/-- The component is ready for a change, and its plan was reset before that. -/
structure Configurable (component : Component) (past : History) : Prop where
  ready : Ready component past
  preparing : Preparing component past

namespace Configurable

/-- A component that is reset when it is ready can be configured. -/
theorem of_reset (ready : Ready component past)
    (reset : exchange.question = .call (.reset component)) :
    Configurable component (past ++ [exchange]) :=
  ⟨ready.snoc (by simp [reset]), .of_reset reset⟩

/-- A component stays configurable while it is being configured. -/
theorem snoc (configurable : Configurable component past) {answer : call.Answer}
    (configures : call.configures = true) :
    Configurable component (past ++ [⟨.call call, answer⟩]) := by
  refine ⟨configurable.ready.snoc ?_, configurable.preparing.snoc ?_⟩
  · rintro asked same
    cases same
    cases configures
  · rintro ⟨other, same | same⟩
    · cases same
      cases configures
    · cases same
      cases configures

end Configurable

/-- The call changes the component or its plan. -/
def Alters (past : History) (component : Component) : Call → Prop
  | .updateGroup _ _ | .reorderGroup _ _ => Preparing component past
  | .updateSettings other _ | .reset other | .upgrade other => other = component
  | _ => False

/-- What holds of a call of a run at the moment it is made. -/
structure Disciplined (run : Run) (past : History) (call : Call) : Prop where
  /-- A component is changed only when it is ready for it. -/
  settled : ∀ component, Alters past component call → Ready component past
  /-- Every other change of a component with a plan comes after the plan was reset. -/
  resetFirst : ∀ component, Alters past component call → component.customizable = true →
    call ≠ .reset component → Preparing component past
  /-- A group is changed while the component that declares it is being prepared. -/
  attributed : ∀ id, call.changedGroup? = some id →
    ∃ component, Preparing component past ∧ run.DeclaresGroup component id
  /-- A pause comes right after a component that can be paused was seen in progress. -/
  pausing : call = .pause → ∃ component earlier probe observed, component.customizable = true ∧
    past = earlier ++ [probe] ∧ Shows (some component) probe observed ∧
    observed.status = .inProgress

/-- The question is no call, or a disciplined one. -/
def Orderly (run : Run) (past : History) (question : Question) : Prop :=
  ∀ call, question = .call call → Disciplined run past call

/-- A disciplined call is orderly. -/
theorem Disciplined.orderly (disciplined : Disciplined run past call) :
    Orderly run past (.call call) := by
  intro other same
  cases same
  exact disciplined

namespace Disciplined

/-- Calls that change neither a component nor a plan are free. -/
theorem of_idle (idle : ∀ component, ¬ Alters past component call)
    (ungrouped : call.changedGroup? = none) (running : call ≠ .pause) :
    Disciplined run past call where
  settled component alters := absurd alters (idle component)
  resetFirst component alters := absurd alters (idle component)
  attributed id changed := by simp [ungrouped] at changed
  pausing paused := absurd paused running

/-- A call that only reads is free. -/
theorem of_reading (reads : call.changes = false) : Disciplined run past call := by
  refine of_idle (fun component alters => ?_) ?_ ?_
  · cases call <;> first | exact alters | cases reads
  · cases call <;> first | rfl | cases reads
  · rintro rfl
    cases reads

/-- A component that is ready may be reset. -/
theorem of_reset (ready : Ready component past) : Disciplined run past (.reset component) where
  settled other alters := by
    obtain rfl : component = other := alters
    exact ready
  resetFirst other alters _ differs := by
    obtain rfl : component = other := alters
    exact absurd rfl differs
  attributed id changed := by cases changed
  pausing paused := by cases paused

/-- A component that is ready may be launched, after its preparation if it can be configured. -/
theorem of_upgrade (ready : Ready component past)
    (prepared : component.customizable = true → Preparing component past) :
    Disciplined run past (.upgrade component) where
  settled other alters := by
    obtain rfl : component = other := alters
    exact ready
  resetFirst other alters customizable _ := by
    obtain rfl : component = other := alters
    exact prepared customizable
  attributed id changed := by cases changed
  pausing paused := by cases paused

/-- The settings of a component that can be configured may be updated. -/
theorem of_updateSettings {settings : PlanSettings} (configurable : Configurable component past) :
    Disciplined run past (.updateSettings component settings) where
  settled other alters := by
    obtain rfl : component = other := alters
    exact configurable.ready
  resetFirst other alters _ _ := by
    obtain rfl : component = other := alters
    exact configurable.preparing
  attributed id changed := by cases changed
  pausing paused := by cases paused

/-- A group may be changed or moved while its component is being prepared. -/
theorem of_group {id : String} (changes : call.changedGroup? = some id)
    (configurable : Configurable component past) (declares : run.DeclaresGroup component id) :
    Disciplined run past call := by
  have alters : ∀ other, Alters past other call → Preparing other past := fun other alters => by
    cases call <;> first | exact alters | cases changes
  exact {
    settled := fun other altersOther => by
      obtain rfl := configurable.preparing.unique (alters other altersOther)
      exact configurable.ready
    resetFirst := fun other altersOther _ _ => alters other altersOther
    attributed := fun changed changesIt => by
      obtain rfl := Option.some.inj (changes.symm.trans changesIt)
      exact ⟨component, configurable.preparing, declares⟩
    pausing := fun paused => by
      subst paused
      cases changes }

/-- An upgrade may be paused right after a component that can be configured was seen in progress. -/
theorem of_pause {earlier : History} {probe : Program.Exchange Question Answer}
    {observed : Observation} (customizable : component.customizable = true)
    (shows : Shows (some component) probe observed) (working : observed.status = .inProgress) :
    Disciplined run (earlier ++ [probe]) .pause where
  settled _ alters := alters.elim
  resetFirst _ alters := alters.elim
  attributed id changed := by cases changed
  pausing _ := ⟨component, earlier, probe, observed, customizable, rfl, shows, working⟩

end Disciplined

end Session

end FabricUpgrade
