import FabricUpgrade.Proofs.Turn

/-!
# Arguments along a run

A run is made of few kinds of steps: it asks whether it should stop, makes the first probe of a
turn, makes calls that have to succeed, waits, and starts checks.  What can be argued for each of
these can be argued for the whole run (`Run.Argument.execute`), and only here a run is gone through
step by step for that.
-/

namespace FabricUpgrade

open Program Session

/-- The group that a call is about. -/
def Call.group? : Call → Option String
  | getGroup id | updateGroup id _ | reorderGroup id _ => some id
  | _ => none

namespace Run

/-- The waits of a run: for what or whom to settle, or for which component to be upgraded. -/
inductive Awaits (run : Run) : Option Component → Transition → Prop where
  | settling (component : Option Component) : Awaits run component Transition.untilStable
  | finishing (component : Component) :
      Awaits run (some component) (.ofUpgrade (run.isPartial component))

/-- Where in a run a step leads: between the turns of the components or into one of them. -/
inductive Place where
  | between
  | turn (component : Component)

/-- An argument along a run. -/
structure Argument (run : Run) where
  /-- What holds at a place after what has happened. -/
  holds : Place → Session.History → Prop
  /-- After what has happened the step leads to the place, if it ends well. -/
  leads : {Value : Type} → Place → Procedure Value → Session.History → Prop
  leads_pure : ∀ {Value : Type} {place : Place} {past : Session.History} (value : Value),
    holds place past → leads place (pure value) past
  leads_bind : ∀ {First Second : Type} {middle place : Place} {first : Procedure First}
    {next : First → Procedure Second} {past : Session.History}, leads middle first past →
    (∀ past value, holds middle past → leads place (next value) past) →
    leads place (first >>= next) past
  /-- Turns begin right after it was asked whether to stop. -/
  leads_stop : ∀ {Value : Type} {component : Component} {goesOn : Procedure Value}
    {past : Session.History}, holds .between past →
    (∀ past, holds .between past → ¬ Paused past → leads .between goesOn past) →
    leads .between (do
      if ← Session.stopRequested then throw (.cancelled (some component))
      goesOn) past
  leads_probe : ∀ {component : Component} {past : Session.History}, holds .between past →
    ¬ Paused past → leads (.turn component) (Wait.probe (some component)) past
  leads_perform : ∀ {component : Component} {call : Call} {past : Session.History},
    (∀ asked, call ≠ .getStatus asked) → (∀ asked, call ≠ .checkUpgraded asked) →
    holds (.turn component) past →
    leads (.turn component) (Procedure.perform call (some component) call.group?) past
  leads_await : ∀ {component : Component} {asked : Option Component} {transition : Transition}
    {past : Session.History}, run.Awaits asked transition →
    (∀ other, asked = some other → other = component) → holds (.turn component) past →
    leads (.turn component) (run.await {} asked transition) past
  /-- Turns end anywhere. -/
  leaves : ∀ {component : Component} {past : Session.History},
    holds (.turn component) past → holds .between past
  leads_checks : ∀ {checked : List Component} {past : Session.History}, holds .between past →
    leads .between (liftM (startChecks checked)) past

namespace Argument

variable {run : Run} (argument : run.Argument) {component : Component} {past : Session.History}

theorem configureGroupsAfter {previous : Option String} {declared : List DeclaredGroup}
    (holds : argument.holds (.turn component) past) :
    argument.leads (.turn component) (Plan.configureGroupsAfter component previous declared)
      past := by
  induction declared generalizing previous past with
  | nil => exact argument.leads_pure _ holds
  | cons group rest inductionHypothesis =>
    refine argument.leads_bind (argument.leads_perform nofun nofun holds)
      fun past fetched holds => ?_
    refine argument.leads_bind (argument.leads_perform nofun nofun holds) fun past _ holds => ?_
    cases previous with
    | none => exact inductionHypothesis holds
    | some anchor =>
      refine argument.leads_bind (argument.leads_perform nofun nofun holds) fun past _ holds => ?_
      exact inductionHypothesis holds

theorem configureSettings {declared : Option DeclaredSettings}
    (holds : argument.holds (.turn component) past) :
    argument.leads (.turn component) (Plan.configureSettings component declared) past := by
  cases declared with
  | none => exact argument.leads_pure _ holds
  | some settings =>
    refine argument.leads_bind (argument.leads_perform nofun nofun holds)
      fun past fetched holds => ?_
    refine argument.leads_bind (argument.leads_perform nofun nofun holds) fun past _ holds => ?_
    exact argument.leads_pure _ holds

theorem prepare (holds : argument.holds (.turn component) past) :
    argument.leads (.turn component) (run.prepare component) past := by
  refine argument.leads_bind (argument.leads_perform nofun nofun holds) fun past _ holds => ?_
  cases run.plan? component with
  | none => exact argument.leads_pure _ holds
  | some plan =>
    exact argument.leads_bind (argument.configureGroupsAfter holds) fun past _ holds =>
      argument.configureSettings holds

theorem launch (holds : argument.holds (.turn component) past) :
    argument.leads (.turn component) (run.launch {} component) past := by
  refine argument.leads_bind (argument.leads_await (.settling none) nofun holds)
    fun past _ holds => ?_
  by_cases customizable : component.customizable = true
  · simp only [customizable]
    exact argument.leads_bind (argument.prepare holds) fun past _ holds =>
      argument.leads_perform nofun nofun holds
  · simp only [customizable]
    exact argument.leads_perform nofun nofun holds

/-- A wait for the component itself. -/
theorem await {transition : Transition} (awaits : run.Awaits (some component) transition)
    (holds : argument.holds (.turn component) past) :
    argument.leads (.turn component) (run.await {} (some component) transition) past :=
  argument.leads_await awaits (fun _ => own) holds

theorem settle {entry : Observation} (holds : argument.holds (.turn component) past) :
    argument.leads (.turn component) (run.settle {} component entry) past := by
  rcases settle_cases run component entry with ⟨_, _, same⟩ | same | ⟨_, same⟩ <;> rw [same]
  · exact argument.leads_bind (argument.leads_perform nofun nofun holds) fun past _ holds =>
      argument.await (.settling _) holds
  · exact argument.await (.settling _) holds
  · exact argument.leads_pure _ holds

/-- The end of a turn leads from the argument of the turn to that between turns. -/
theorem finish (holds : argument.holds (.turn component) past) :
    argument.leads .between (run.finish component) past :=
  argument.leads_bind (argument.await (.finishing component) holds) fun _ _ holds =>
    argument.leads_pure _ (argument.leaves holds)

/-- A turn leads from one moment between turns to another. -/
theorem driveComponent (holds : argument.holds .between past) (unpaused : ¬ Paused past) :
    argument.leads .between (run.driveComponent {} component) past := by
  rw [driveComponent_eq]
  refine argument.leads_bind (argument.leads_probe holds unpaused) fun past entry holds => ?_
  refine argument.leads_bind (argument.settle holds) fun _ entry holds => ?_
  rcases conclude_cases run component entry with ⟨_, same⟩ | ⟨_, same⟩ | ⟨_, _, same⟩ <;> rw [same]
  · exact argument.leads_pure _ (argument.leaves holds)
  · exact argument.finish holds
  · exact argument.leads_bind (argument.launch holds) fun _ _ holds => argument.finish holds

/-- A run leads through its turns under the argument. -/
theorem drive {components : List Component} {partialSeen : Bool}
    (holds : argument.holds .between past) :
    argument.leads .between (run.drive {} components partialSeen) past := by
  induction components generalizing partialSeen past with
  | nil => exact argument.leads_pure _ holds
  | cons component rest inductionHypothesis =>
    refine argument.leads_stop holds fun past holds unpaused => ?_
    by_cases skipped : (decide (component = .management) && partialSeen) = true
    · rw [if_pos skipped]
      exact argument.leads_bind (inductionHypothesis holds) fun past _ holds =>
        argument.leads_pure _ holds
    · rw [if_neg skipped]
      refine argument.leads_bind (argument.driveComponent holds unpaused) fun past _ holds => ?_
      exact argument.leads_bind (inductionHypothesis holds) fun past _ holds =>
        argument.leads_pure _ holds

/-- What can be argued for the steps of a run can be argued for the run. -/
theorem execute (holds : argument.holds .between past) :
    argument.leads .between (run.execute {}) past := by
  refine argument.leads_bind (argument.drive holds) fun past _ holds => ?_
  exact argument.leads_bind (argument.leads_checks holds) fun past _ holds =>
    argument.leads_pure _ holds

end Argument

end Run

end FabricUpgrade
