import FabricUpgrade.Proofs.Conversation
import FabricUpgrade.Upgrade.Wait

/-!
# Probes in a history

What an upgrade knows of a component is what its last status request showed.  `Session.LatestProbe`
takes a history apart at that request, so that facts about what has happened since are facts about a
list.  `Wait.reading` is what a status request makes of its answer.
-/

namespace FabricUpgrade

/-- Whatever is the last of its kind in a list is determined by the list. -/
theorem last_split_unique {α : Type} {kind : α → Prop} {earlier other first second : List α}
    {last again : α} (same : earlier ++ last :: first = other ++ again :: second)
    (ofKind : kind last) (againOfKind : kind again) (none : ∀ item ∈ first, ¬ kind item)
    (noneAgain : ∀ item ∈ second, ¬ kind item) : last = again ∧ first = second := by
  rcases List.append_eq_append_iff.1 same with ⟨more, -, tail⟩ | ⟨more, -, tail⟩
  · cases more with
    | nil => simpa using tail
    | cons _ more =>
      obtain ⟨-, rfl⟩ := List.cons.inj tail
      exact absurd againOfKind (none again (by simp))
  · cases more with
    | nil => simpa using And.intro (List.cons.inj tail).1.symm (List.cons.inj tail).2.symm
    | cons _ more =>
      obtain ⟨-, rfl⟩ := List.cons.inj tail
      exact absurd ofKind (noneAgain last (by simp))

namespace Session

/-- The exchanges of an upgrade so far, in order. -/
abbrev History : Type :=
  Program.History Question Answer

/-- The exchange is a status request that was answered and showed the observation; without a
component it is one about the whole upgrade. -/
def Shows (component : Option Component) (exchange : Program.Exchange Question Answer)
    (observed : Observation) : Prop :=
  ∃ summary : Summary, exchange = ⟨.call (.getStatus component), .ok summary⟩ ∧
    Wait.observationOf component summary = .ok observed

/-- Only a status request shows something. -/
theorem Shows.question {component : Option Component} {exchange : Program.Exchange Question Answer}
    {observed : Observation} (shows : Shows component exchange observed) :
    exchange.question = .call (.getStatus component) := by
  obtain ⟨summary, rfl, -⟩ := shows
  rfl

/-- An exchange shows one observation at most. -/
theorem Shows.unique {component : Option Component} {exchange : Program.Exchange Question Answer}
    {first second : Observation} (shows : Shows component exchange first)
    (also : Shows component exchange second) : first = second := by
  obtain ⟨summary, rfl, reads⟩ := shows
  obtain ⟨other, same, readsToo⟩ := also
  cases same
  exact Except.ok.inj (reads.symm.trans readsToo)

/-- The last status request for a component: what it showed, and the exchanges since. -/
structure LatestProbe (component : Option Component) (past : History) (observed : Observation)
    (since : History) : Prop where
  shown : ∃ earlier probe, past = earlier ++ probe :: since ∧ Shows component probe observed
  unprobed : ∀ exchange ∈ since, exchange.question ≠ .call (.getStatus component)

namespace LatestProbe

variable {component : Option Component} {past since : History} {observed : Observation}
  {exchange : Program.Exchange Question Answer}

/-- A probe that was just made is the latest one. -/
theorem of_shows (shows : Shows component exchange observed) :
    LatestProbe component (past ++ [exchange]) observed [] :=
  ⟨⟨past, exchange, rfl, shows⟩, by simp⟩

/-- A status request stays the last one for as long as there is no other for its component. -/
theorem snoc (latest : LatestProbe component past observed since)
    (other : exchange.question ≠ .call (.getStatus component)) :
    LatestProbe component (past ++ [exchange]) observed (since ++ [exchange]) := by
  obtain ⟨⟨earlier, probe, rfl, shows⟩, unprobed⟩ := latest
  refine ⟨⟨earlier, probe, by simp, shows⟩, fun later member => ?_⟩
  rcases List.mem_append.1 member with old | new
  · exact unprobed later old
  · rw [List.mem_singleton.1 new]
    exact other

/-- The last status request for a component is determined by the history. -/
theorem unique {other : Observation} {afterwards : History}
    (latest : LatestProbe component past observed since)
    (also : LatestProbe component past other afterwards) :
    observed = other ∧ since = afterwards := by
  obtain ⟨⟨earlier, probe, rfl, shows⟩, unprobed⟩ := latest
  obtain ⟨⟨before, again, same, showsAgain⟩, unprobedAgain⟩ := also
  obtain ⟨rfl, rfl⟩ :=
    last_split_unique same shows.question showsAgain.question unprobed unprobedAgain
  exact ⟨shows.unique showsAgain, rfl⟩

end LatestProbe

end Session

namespace Wait

/-- What a status request makes of its answer. -/
def reading (tolerates : Tolerance) (component : Option Component) :
    Except ManagerError Summary → Except Failure Observation
  | .ok summary => observationOf component summary
  | .error error =>
    if tolerates component error then .ok ⟨.inProgress, error.message⟩
    else .error (.call .statusGet component none error)

/-- A look at the status is one question whose answer is read. -/
theorem observe_run (tolerates : Tolerance) (component : Option Component) :
    (observe tolerates component).run =
      .ask (.call (.getStatus component)) fun answer =>
        .done (reading tolerates component answer) := by
  refine congrArg (Program.ask _) (funext fun answer => ?_)
  cases answer with
  | ok summary => rfl
  | error error =>
    change ExceptT.run (if tolerates component error then _ else _) = _
    by_cases tolerated : tolerates component error = true
    · simp only [tolerated, if_true, reading]
      rfl
    · simp only [tolerated, reading]
      rfl

/-- A tolerated error shows a component in progress, so any other status was really answered. -/
theorem shows_of_reading {tolerates : Tolerance} {component : Option Component}
    {answer : Except ManagerError Summary} {observed : Observation}
    (reads : reading tolerates component answer = .ok observed)
    (settled : observed.status ≠ .inProgress) :
    Session.Shows component ⟨.call (.getStatus component), answer⟩ observed := by
  cases answer with
  | ok summary => exact ⟨summary, rfl, reads⟩
  | error error =>
    by_cases tolerated : tolerates component error = true
    · simp only [reading, tolerated, if_true, Except.ok.injEq] at reads
      exact absurd (by rw [← reads]) settled
    · simp [reading, tolerated] at reads

/-- Where no error is tolerated every status was really answered. -/
theorem shows_of_reading_none {component : Option Component}
    {answer : Except ManagerError Summary} {observed : Observation}
    (reads : reading Tolerance.none component answer = .ok observed) :
    Session.Shows component ⟨.call (.getStatus component), answer⟩ observed := by
  cases answer with
  | ok summary => exact ⟨summary, rfl, reads⟩
  | error error => simp [reading, Tolerance.none] at reads

end Wait

end FabricUpgrade
