import FabricUpgrade.Proofs.Watching

/-!
# Parts that stay where they settled

A part is lifelike if only what is at work moves on by itself, and what is pausing does not get to
work again.  A wait for a lifelike part that comes to an end comes to the same end when it is begun
anew wherever it would have heeded a stop (`Parts.Meanwhile.again`).
-/

namespace FabricUpgrade

/-- A part may go from one status to the next by itself. -/
def Status.LeadsTo (status next : Status) : Prop :=
  status.isInFlight = true ∧ (status = .pausing → next ≠ .inProgress)

instance (status next : Status) : Decidable (status.LeadsTo next) :=
  inferInstanceAs (Decidable (_ ∧ _))

/-- Only while it is at work the part moves on by itself. -/
structure Part.Lifelike (part : Part) : Prop where
  script : (part.status :: part.script).IsChain Status.LeadsTo
  upgradeScript : (.inProgress :: part.upgradeScript).IsChain Status.LeadsTo

namespace Part

variable {part : Part}

/-- A launch undoes a step of the script. -/
@[simp]
theorem launched_advanced (part : Part) : part.advanced.launched = part.launched := by
  cases script : part.script <;> simp [advanced, script, launched]

/-- A launch undoes a pause. -/
@[simp]
theorem launched_pausing (part : Part) : part.pausing.launched = part.launched := by
  rw [pausing]
  split <;> rfl

/-- A second launch changes nothing. -/
@[simp]
theorem launched_launched (part : Part) : part.launched.launched = part.launched :=
  rfl

/-- What is at rest cannot be made to pause. -/
theorem pausing_eq (rests : part.status.isInFlight = false) : part.pausing = part := by
  apply if_neg
  intro works
  rw [works] at rests
  cases rests

/-- A part is at rest after it was made to pause only if it was at rest before. -/
theorem pausing_eq_of_rest (rests : part.pausing.status.isInFlight = false) :
    part.pausing = part := by
  apply if_neg
  intro works
  rw [pausing, if_pos works] at rests
  cases rests

namespace Lifelike

/-- A part stays lifelike as it takes a step. -/
theorem advanced (lifelike : part.Lifelike) : part.advanced.Lifelike := by
  obtain ⟨script, upgradeScript⟩ := lifelike
  obtain ⟨status, details, steps, upgradeSteps⟩ := part
  cases steps with
  | nil => exact ⟨script, upgradeScript⟩
  | cons next steps => exact ⟨(List.isChain_cons_cons.1 script).2, upgradeScript⟩

/-- A part stays lifelike as it is made to pause. -/
theorem pausing (lifelike : part.Lifelike) : part.pausing.Lifelike := by
  have pauses : Status.pausing.LeadsTo .paused := by decide
  rw [Part.pausing]
  split
  · exact ⟨List.isChain_cons_cons.2 ⟨pauses, .singleton _⟩, lifelike.upgradeScript⟩
  · exact lifelike

/-- A part stays lifelike as it is launched. -/
theorem launched (lifelike : part.Lifelike) : part.launched.Lifelike :=
  ⟨lifelike.upgradeScript, lifelike.upgradeScript⟩

/-- At rest a part stays as it is. -/
theorem advanced_eq (lifelike : part.Lifelike) (rests : part.status.isInFlight = false) :
    part.advanced = part := by
  obtain ⟨status, details, steps, upgradeSteps⟩ := part
  cases steps with
  | nil => rfl
  | cons next steps =>
    have leads : status.LeadsTo next := (List.isChain_cons_cons.1 lifelike.script).1
    exact absurd leads.1 (by simp [show status.isInFlight = false from rests])

/-- What is pausing does not get to work again. -/
theorem advanced_status_ne (lifelike : part.Lifelike) (pauses : part.status = .pausing) :
    part.advanced.status ≠ .inProgress := by
  obtain ⟨status, details, steps, upgradeSteps⟩ := part
  cases steps with
  | nil =>
    change status ≠ .inProgress
    rw [show status = .pausing from pauses]
    decide
  | cons next steps => exact (List.isChain_cons_cons.1 lifelike.script).1.2 pauses

end Lifelike

end Part

namespace Parts

variable {parts before middle after : Parts} {component : Component}

/-- Every part is lifelike. -/
def Lifelike (parts : Parts) : Prop :=
  ∀ component, (parts component).Lifelike

/-- All parts stay lifelike if the one that changes does. -/
theorem Lifelike.change (lifelike : parts.Lifelike) {change : Part → Part}
    (keeps : (parts component).Lifelike → (change (parts component)).Lifelike) :
    (parts.change component change).Lifelike := by
  intro other
  by_cases same : other = component
  · subst same
    rw [change_same]
    exact keeps (lifelike other)
  · rw [change_of_ne same]
    exact lifelike other

/-- All parts stay lifelike as one of them is asked for its status. -/
theorem Lifelike.asked (lifelike : parts.Lifelike) :
    (parts.asked (some component)).Lifelike :=
  lifelike.change Part.Lifelike.advanced

/-- All parts stay lifelike as they are made to pause. -/
theorem Lifelike.pausing (lifelike : parts.Lifelike) : parts.pausing.Lifelike :=
  fun component => (lifelike component).pausing

/-- At rest a component is seen as it was. -/
theorem asked_eq (lifelike : (parts component).Lifelike)
    (rests : (parts component).status.isInFlight = false) :
    parts.asked (some component) = parts := by
  rw [Parts.asked, Parts.change, lifelike.advanced_eq rests]
  exact Function.update_eq_self _ _

/-- What is pausing and still at work is still pausing. -/
theorem Lifelike.asked_pausing (lifelike : parts.Lifelike)
    (works : ((parts.asked (some component)).seen (some component)).status.isInFlight = true)
    (pauses : (parts component).status = .pausing) :
    (parts.asked (some component) component).status = .pausing := by
  have stays : (parts.asked (some component) component).status ≠ .inProgress := by
    rw [Parts.asked, change_same]
    exact (lifelike component).advanced_status_ne pauses
  change (parts.asked (some component) component).status.isInFlight = true at works
  generalize (parts.asked (some component) component).status = status at stays works
  cases status <;> first | rfl | exact absurd rfl stays | cases works

/-- Nothing but one component has moved, and a launch would show it as before. -/
structure Moves (component : Component) (before after : Parts) : Prop where
  others : ∀ other, other ≠ component → after other = before other
  launched : (after component).launched = (before component).launched

namespace Moves

theorem refl (component : Component) (parts : Parts) : Moves component parts parts :=
  ⟨fun _ _ => rfl, rfl⟩

/-- What moves the same component twice moves it. -/
theorem trans (first : Moves component before middle) (second : Moves component middle after) :
    Moves component before after where
  others other differs := (second.others other differs).trans (first.others other differs)
  launched := second.launched.trans first.launched

/-- A change that a launch undoes moves its component only. -/
theorem of_change {change : Part → Part}
    (same : (change (parts component)).launched = (parts component).launched) :
    Moves component parts (parts.change component change) where
  others _ differs := change_of_ne differs _ _
  launched := by rw [change_same, same]

/-- Asking a component for its status moves that one only. -/
theorem asked (component : Component) (parts : Parts) :
    Moves component parts (parts.asked (some component)) :=
  of_change (Part.launched_advanced _)

/-- Everything stays at rest when the component comes to rest again. -/
theorem rest (moves : Moves component before after) (rests : before.Rest)
    (still : (after component).status.isInFlight = false) : after.Rest := by
  intro other
  by_cases same : other = component
  · rwa [same]
  · rw [moves.others other same]
    exact rests other

/-- A launch undoes what its component went through. -/
theorem change_launched (moves : Moves component before after) :
    after.change component Part.launched = before.change component Part.launched := by
  funext other
  by_cases same : other = component
  · subst same
    rw [change_same, change_same, moves.launched]
  · rw [change_of_ne same, change_of_ne same, moves.others other same]

end Moves

end Parts

/-- A wait ends at rest, and it goes on only while its component is at work. -/
structure Transition.Settling (transition : Transition) : Prop where
  target : ∀ status ∈ transition.target, status.isInFlight = false
  pending : ∀ status ∈ transition.pending, status.isInFlight = true

namespace Transition

variable {status : Status}

/-- A wait for a stable status goes on exactly while the component is at work. -/
theorem mem_untilStable_pending : status ∈ untilStable.pending ↔ status.isInFlight = true := by
  cases status <;> decide

/-- A wait for a stable status ends at rest. -/
theorem untilStable_settling : untilStable.Settling where
  target status member := by
    simpa [Status.isStable] using mem_untilStable_target.1 member
  pending _ := mem_untilStable_pending.1

/-- A wait for an upgrade ends at rest, also where a part is left for later. -/
theorem ofUpgrade_settling (staysPartial : Bool) : (ofUpgrade staysPartial).Settling where
  target status := by
    cases staysPartial <;> cases status <;> decide
  pending status := by
    cases staysPartial <;> cases status <;> decide

end Transition

namespace Parts

variable {parts after stop : Parts} {component : Component} {account : Option Component}
  {transition : Transition} {pauses : Nat} {later : Trace Observation} {observed : Observation}
  {ended : Observation × Parts}

/-- A round that sees the target returns what it sees. -/
theorem round_of_reached
    (reached : ((parts.asked account).seen account).status ∈ transition.target) :
    parts.round account transition later =
      .returning ((parts.asked account).seen account) (parts.asked account) := by
  rw [round]
  simp only [reached, if_true]

/-- A round that sees the component still at work goes on. -/
theorem round_of_pending
    (unreached : ((parts.asked account).seen account).status ∉ transition.target)
    (pending : ((parts.asked account).seen account).status ∈ transition.pending) :
    parts.round account transition later = later := by
  rw [round]
  simp only [unreached, pending, if_false, not_true]

/-- A round that does not fail has arrived, or it goes on. -/
theorem round_cases (ends : (parts.round account transition later).ends = some ended) :
    ((parts.asked account).seen account).status ∈ transition.target ∧
        ended = ((parts.asked account).seen account, parts.asked account) ∨
      ((parts.asked account).seen account).status ∉ transition.target ∧
        ((parts.asked account).seen account).status ∈ transition.pending ∧ later.ends = some ended := by
  by_cases reached : ((parts.asked account).seen account).status ∈ transition.target
  · rw [round_of_reached reached] at ends
    exact .inl ⟨reached, (Option.some.inj ends).symm⟩
  · by_cases pending : ((parts.asked account).seen account).status ∈ transition.pending
    · rw [round_of_pending reached pending] at ends
      exact .inr ⟨reached, pending, ends⟩
    · rw [round] at ends
      simp only [reached, pending, if_false, not_false_iff, if_true] at ends
      cases ends

/-- A wait that sees its target at once ends there. -/
theorem watch_of_reached
    (reached : ((parts.asked account).seen account).status ∈ transition.target) (pauses : Nat) :
    parts.watch account transition pauses =
      .returning ((parts.asked account).seen account) (parts.asked account) := by
  cases pauses with
  | zero => exact round_of_reached reached
  | succ pauses => exact round_of_reached reached

/-- A wait that sees the component still at work pauses once and goes on. -/
theorem watch_succ_of_pending
    (unreached : ((parts.asked account).seen account).status ∉ transition.target)
    (pending : ((parts.asked account).seen account).status ∈ transition.pending) (pauses : Nat) :
    parts.watch account transition (pauses + 1) =
      ((parts.asked account).watch account transition pauses).pausing (parts.asked account) :=
  round_of_pending unreached pending

/-- A wait that does not fail arrives with its first probe, or it pauses after that. -/
theorem watch_cases (ends : (parts.watch account transition pauses).ends = some ended) :
    ((parts.asked account).seen account).status ∈ transition.target ∧
        ended = ((parts.asked account).seen account, parts.asked account) ∨
      ((parts.asked account).seen account).status ∉ transition.target ∧
        ((parts.asked account).seen account).status ∈ transition.pending ∧
        ∃ fewer, pauses = fewer + 1 ∧
          ((parts.asked account).watch account transition fewer).ends = some ended := by
  cases pauses with
  | zero =>
    rcases round_cases ends with reached | ⟨_, _, fails⟩
    · exact .inl reached
    · cases fails
  | succ pauses =>
    rcases round_cases ends with reached | ⟨unreached, pending, rest⟩
    · exact .inl reached
    · exact .inr ⟨unreached, pending, pauses, rfl, rest⟩

/-- What holds of every wait that does not fail: it holds where the wait arrives, and one pause
earlier if it holds from there on. -/
@[elab_as_elim]
theorem watch_induct
    {motive : (parts : Parts) → (pauses : Nat) →
      (parts.watch account transition pauses).ends = some ended → Prop}
    (arrives : ∀ parts pauses ends,
      ((parts.asked account).seen account).status ∈ transition.target →
      ended = ((parts.asked account).seen account, parts.asked account) →
      motive parts pauses ends)
    (goesOn : ∀ parts pauses ends,
      ((parts.asked account).seen account).status ∉ transition.target →
      ((parts.asked account).seen account).status ∈ transition.pending →
      ∀ rest : ((parts.asked account).watch account transition pauses).ends = some ended,
        motive (parts.asked account) pauses rest → motive parts (pauses + 1) ends)
    (parts : Parts) (pauses : Nat)
    (ends : (parts.watch account transition pauses).ends = some ended) :
    motive parts pauses ends := by
  induction pauses generalizing parts with
  | zero =>
    rcases watch_cases ends with ⟨reached, same⟩ | ⟨_, _, _, none, _⟩
    · exact arrives _ _ ends reached same
    · cases none
  | succ pauses inductionHypothesis =>
    rcases watch_cases ends with ⟨reached, same⟩ | ⟨unreached, pending, _, fewer, rest⟩
    · exact arrives _ _ ends reached same
    · cases fewer
      exact goesOn _ _ ends unreached pending rest (inductionHypothesis _ rest)

/-- A wait that does not fail does not fail either when it has more time. -/
theorem watch_mono {more : Nat} (within : pauses ≤ more)
    (ends : (parts.watch account transition pauses).ends = some ended) :
    (parts.watch account transition more).ends = some ended := by
  induction parts, pauses, ends using watch_induct generalizing more with
  | arrives parts pauses ends reached same =>
    rw [watch_of_reached reached, same]
    rfl
  | goesOn parts pauses ends unreached pending rest inductionHypothesis =>
    obtain ⟨room, rfl⟩ := Nat.exists_eq_add_of_le' within
    rw [← Nat.add_assoc, watch_succ_of_pending unreached pending]
    exact inductionHypothesis (Nat.le_add_left _ _)

/-- A wait that arrives somewhere at rest also does so when it is only waited for rest. -/
theorem watch_untilStable (settling : transition.Settling)
    (ends : (parts.watch account transition pauses).ends = some ended) :
    (parts.watch account .untilStable pauses).ends = some ended := by
  induction parts, pauses, ends using watch_induct with
  | arrives parts pauses ends reached same =>
    have stable := settling.target _ reached
    rw [watch_of_reached (Transition.mem_untilStable_target.2 (by simp [Status.isStable, stable])),
      same]
    rfl
  | goesOn parts pauses ends unreached pending rest inductionHypothesis =>
    have working := settling.pending _ pending
    have unsettled : ((parts.asked account).seen account).status ∉
        Transition.untilStable.target := by
      rw [Transition.mem_untilStable_target, Status.isStable, working]
      decide
    rw [watch_succ_of_pending unsettled (Transition.mem_untilStable_pending.2 working)]
    exact inductionHypothesis

/-- Where a wait ends its component is at rest. -/
theorem watch_ends (lifelike : parts.Lifelike)
    (ends : (parts.watch (some component) transition pauses).ends = some (observed, after)) :
    Moves component parts after ∧ after.Lifelike ∧ observed = (after component).observation ∧
      (after component).status ∈ transition.target := by
  induction parts, pauses, ends using watch_induct with
  | arrives parts pauses ends reached same =>
    cases same
    exact ⟨.asked component parts, lifelike.asked, rfl, reached⟩
  | goesOn parts pauses ends unreached pending rest inductionHypothesis =>
    obtain ⟨moves, left⟩ := inductionHypothesis lifelike.asked
    exact ⟨(Moves.asked component parts).trans moves, left⟩

/-- A wait that does not fail ends the same when one step of the script was taken before. -/
theorem watch_asked (lifelike : parts.Lifelike) (settling : transition.Settling)
    (ends : (parts.watch (some component) transition pauses).ends = some ended) :
    ((parts.asked (some component)).watch (some component) transition pauses).ends =
      some ended := by
  rcases watch_cases ends with ⟨reached, rfl⟩ | ⟨_, _, fewer, rfl, rest⟩
  · have still := asked_eq (lifelike.asked component) (settling.target _ reached)
    rw [watch_of_reached (by rwa [still]), still]
    rfl
  · exact watch_mono (Nat.le_succ fewer) rest

/-- What is left when a wait is broken off that would have ended somewhere. -/
structure Meanwhile (component : Component) (transition : Transition) (pauses : Nat)
    (parts : Parts) (ended : Observation × Parts) (stop : Parts) : Prop where
  moves : Moves component parts stop
  lifelike : stop.Lifelike
  /-- Begun anew the wait ends there. -/
  again : (stop.watch (some component) transition pauses).ends = some ended
  working : (stop component).status ∈ transition.pending
  /-- What is pausing is pausing all the time. -/
  pausing : (parts component).status = .pausing → (stop component).status = .pausing

/-- Wherever a wait that does not fail is stopped, its component is on the way to where it ends. -/
theorem watch_stops (lifelike : parts.Lifelike) (settling : transition.Settling)
    (ends : (parts.watch (some component) transition pauses).ends = some ended) :
    ∀ stop ∈ (parts.watch (some component) transition pauses).stops,
      Meanwhile component transition pauses parts ended stop := by
  induction parts, pauses, ends using watch_induct with
  | arrives parts pauses ends reached same =>
    rw [watch_of_reached reached]
    nofun
  | goesOn parts pauses ends unreached pending rest inductionHypothesis =>
    have stays : (parts component).status = .pausing →
        (parts.asked (some component) component).status = .pausing :=
      lifelike.asked_pausing (settling.pending _ pending)
    rw [watch_succ_of_pending unreached pending]
    intro stop member
    rcases List.mem_cons.1 member with rfl | later
    · exact ⟨.asked component parts, lifelike.asked, watch_asked lifelike settling ends, pending,
        stays⟩
    · have left := inductionHypothesis lifelike.asked stop later
      exact ⟨(Moves.asked component parts).trans left.moves, left.lifelike,
        watch_mono (Nat.le_succ _) left.again, left.working, fun pauses => left.pausing (stays pauses)⟩

end Parts

end FabricUpgrade
