import FabricUpgrade.Proofs.Resuming

/-!
# Runs that are executed again

What an execution leaves behind is executed again.  A component that had succeeded stays as it is, and
one that had paused is launched once more, for which everything has to be at rest; the rest goes its
way (`Run.driving_again`).
-/

namespace FabricUpgrade

namespace ComponentReport

/-- The component was left paused. -/
def pauses (report : ComponentReport) : Bool :=
  report.final.any fun final => final.status = .paused

/-- The component was upgraded in part. -/
def isPartial (report : ComponentReport) : Bool :=
  report.outcome = .partiallyCompleted

/-- The upgrade of the component was waited for. -/
def upgraded (report : ComponentReport) : Bool :=
  report.outcome = .completed ∨ report.outcome = .partiallyCompleted

/-- The later component may come after the earlier one in a run that is executed again: one that is
left paused is upgraded again, for which everything has to be at rest. -/
def Allows (earlier later : ComponentReport) : Prop :=
  earlier.pauses = true → later.upgraded = false

instance (earlier later : ComponentReport) : Decidable (earlier.Allows later) :=
  inferInstanceAs (Decidable (_ → _))

end ComponentReport

namespace Run

variable {run : Run} {ids : List String} {component : Component} {components : List Component}
  {partialSeen seenAgain : Bool} {parts after stop : Parts} {report : ComponentReport}
  {reports : List ComponentReport}

namespace Turned

/-- After its turn a component is at rest. -/
theorem still (turned : Turned run ids component parts report after) :
    (after component).status.isInFlight = false := by
  rcases turned.outcome with ⟨_, same⟩ | ⟨_, same | ⟨_, same⟩⟩ <;> rw [same] <;> rfl

/-- A turn is reported to have left its component paused exactly if it did. -/
theorem pauses_iff (turned : Turned run ids component parts report after) :
    report.pauses = true ↔ (after component).status = .paused := by
  rw [ComponentReport.pauses, turned.final]
  simp [Part.observation]

/-- A component that is left paused was upgraded in part, as it is declared. -/
theorem isPartial_of_pauses (turned : Turned run ids component parts report after)
    (pauses : report.pauses = true) :
    report.isPartial = true ∧ run.isPartial component = true := by
  rw [turned.pauses_iff] at pauses
  rcases turned.outcome with ⟨_, same⟩ | ⟨outcome, same | ⟨isPartial, _⟩⟩
  · rw [pauses] at same
    cases same
  · rw [pauses] at same
    cases same
  · rw [if_pos isPartial] at outcome
    exact ⟨decide_eq_true outcome, isPartial⟩

/-- A component that is not left paused has succeeded. -/
theorem succeeds (turned : Turned run ids component parts report after)
    (goesOn : ¬ report.pauses = true) : (after component).status = .success := by
  rw [turned.pauses_iff] at goesOn
  rcases turned.outcome with ⟨_, same⟩ | ⟨_, same | ⟨_, same⟩⟩
  · exact same
  · exact same
  · exact absurd same goesOn

/-- A turn that is taken again counts as one of an upgrade in part only if the first one did, and
wherever the first one left its component paused. -/
theorem isPartial_again {again : ComponentReport}
    (turned : Turned run ids component parts report after)
    (fits : Matches component after report again) :
    (again.isPartial = true → report.isPartial = true) ∧
      (report.pauses = true → again.isPartial = true) := by
  rcases fits with rfl | ⟨outcome, succeeded⟩
  · exact ⟨id, fun pauses => (turned.isPartial_of_pauses pauses).1⟩
  · constructor
    · intro isPartial
      rw [ComponentReport.isPartial, outcome] at isPartial
      cases isPartial
    · intro pauses
      rw [turned.pauses_iff, succeeded] at pauses
      cases pauses

end Turned

/-!
## Turn after turn
-/

/-- A management plane that is left out is reported as skipped. -/
theorem driving_skips (skipped : component = .management) (rest : List Component) (parts : Parts) :
    run.driving ids (component :: rest) true parts =
      .pausing parts ((run.driving ids rest true parts).andThen fun reports =>
        .returning (⟨component, .skipped, none⟩ :: reports)) := by
  rw [driving]
  simp [skipped]

/-- Any other component takes its turn, and the rest go by what it reports. -/
theorem driving_turns (taken : ¬ (component = .management ∧ partialSeen = true))
    (rest : List Component) (parts : Parts) :
    run.driving ids (component :: rest) partialSeen parts =
      .pausing parts ((run.turning ids component parts).andThen fun report parts =>
        (run.driving ids rest (partialSeen || report.isPartial) parts).andThen fun reports =>
          .returning (report :: reports)) := by
  rw [driving, if_neg (by simpa using taken)]
  rfl

/-- Components are skipped or take their turn, and then it goes on. -/
theorem driving_cases
    (ends : (run.driving ids (component :: components) partialSeen parts).ends =
      some (reports, after)) :
    (component = .management ∧ partialSeen = true ∧ ∃ later,
        reports = ⟨component, .skipped, none⟩ :: later ∧
        (run.driving ids components partialSeen parts).ends = some (later, after)) ∨
      (¬ (component = .management ∧ partialSeen = true) ∧ ∃ report middle later,
        reports = report :: later ∧
        (run.turning ids component parts).ends = some (report, middle) ∧
        (run.driving ids components (partialSeen || report.isPartial) middle).ends =
          some (later, after)) := by
  by_cases skipped : component = .management ∧ partialSeen = true
  · left
    obtain ⟨skipped, rfl⟩ := skipped
    rw [driving_skips skipped] at ends
    obtain ⟨later, left, rest, same⟩ := Trace.andThen_ends_iff.1 ends
    cases same
    exact ⟨skipped, rfl, later, rfl, rest⟩
  · right
    rw [driving_turns skipped] at ends
    obtain ⟨report, middle, turns, ends⟩ := Trace.andThen_ends_iff.1 ends
    obtain ⟨later, left, rest, same⟩ := Trace.andThen_ends_iff.1 ends
    cases same
    exact ⟨skipped, report, middle, later, rfl, turns, rest⟩

/-- What holds of every run that does not fail: it holds with nothing left to drive, and with one
component more that is skipped or takes its turn if it holds from there on. -/
@[elab_as_elim]
theorem driving_induct
    {motive : (components : List Component) → (partialSeen : Bool) → (parts : Parts) →
      (reports : List ComponentReport) → parts.Lifelike →
      (run.driving ids components partialSeen parts).ends = some (reports, after) → Prop}
    (done : ∀ partialSeen lifelike ends, motive [] partialSeen after [] lifelike ends)
    (skips : ∀ rest parts later lifelike ends,
      ∀ remains : (run.driving ids rest true parts).ends = some (later, after),
        motive rest true parts later lifelike remains →
          motive (.management :: rest) true parts (⟨.management, .skipped, none⟩ :: later)
            lifelike ends)
    (turns : ∀ component rest partialSeen parts report middle later lifelike ends,
      ¬ (component = .management ∧ partialSeen = true) →
      (run.turning ids component parts).ends = some (report, middle) →
      ∀ turned : Turned run ids component parts report middle,
      ∀ remains : (run.driving ids rest (partialSeen || report.isPartial) middle).ends =
          some (later, after),
        motive rest (partialSeen || report.isPartial) middle later turned.lifelike remains →
          motive (component :: rest) partialSeen parts (report :: later) lifelike ends)
    (components : List Component) (partialSeen : Bool) (parts : Parts)
    (reports : List ComponentReport) (lifelike : parts.Lifelike)
    (ends : (run.driving ids components partialSeen parts).ends = some (reports, after)) :
    motive components partialSeen parts reports lifelike ends := by
  induction components generalizing parts partialSeen reports with
  | nil =>
    cases ends
    exact done _ lifelike rfl
  | cons component rest inductionHypothesis =>
    rcases driving_cases ends with ⟨rfl, rfl, later, rfl, remains⟩ |
      ⟨taken, report, middle, later, rfl, turn, remains⟩
    · exact skips _ _ _ lifelike ends remains (inductionHypothesis _ _ _ lifelike remains)
    · have turned := turning_ends lifelike turn
      exact turns _ _ _ _ _ _ _ lifelike ends taken turn turned remains
        (inductionHypothesis _ _ _ turned.lifelike remains)

/-- A turn that does not fail and a rest that does not fail go on into one another. -/
theorem driving_turns_ends {again : ComponentReport} {later : List ComponentReport} {left : Parts}
    (taken : ¬ (component = .management ∧ partialSeen = true))
    (turns : (run.turning ids component parts).ends = some (again, left))
    (ends : (run.driving ids components (partialSeen || again.isPartial) left).ends =
      some (later, after)) :
    (run.driving ids (component :: components) partialSeen parts).ends =
      some (again :: later, after) := by
  rw [driving_turns taken]
  exact Trace.andThen_ends_iff.2 ⟨again, left, turns,
    Trace.andThen_ends_iff.2 ⟨later, after, ends, rfl⟩⟩

/-- Stops are heeded before each turn and in it. -/
theorem mem_driving_stops {middle : Parts}
    (taken : ¬ (component = .management ∧ partialSeen = true))
    (turns : (run.turning ids component parts).ends = some (report, middle)) :
    stop ∈ (run.driving ids (component :: components) partialSeen parts).stops ↔
      stop = parts ∨ stop ∈ (run.turning ids component parts).stops ∨
        stop ∈ (run.driving ids components (partialSeen || report.isPartial) middle).stops := by
  rw [driving_turns taken]
  change stop ∈ parts :: _ ↔ _
  rw [List.mem_cons, Trace.mem_andThen_stops]
  refine or_congr_right (or_congr_right ⟨?_, ?_⟩)
  · rintro ⟨_, _, same, member⟩
    rw [turns] at same
    cases same
    rcases Trace.mem_andThen_stops.1 member with here | ⟨_, _, _, none⟩
    · exact here
    · cases none
  · intro member
    exact ⟨report, middle, turns, Trace.mem_andThen_stops.2 (.inl member)⟩

/-- Where the management plane is left out the run is stopped in front of it or later. -/
theorem mem_driving_stops_of_skipped (skipped : component = .management) :
    stop ∈ (run.driving ids (component :: components) true parts).stops ↔
      stop = parts ∨ stop ∈ (run.driving ids components true parts).stops := by
  rw [driving_skips skipped]
  change stop ∈ parts :: _ ↔ _
  rw [List.mem_cons, Trace.mem_andThen_stops]
  refine or_congr_right ⟨?_, .inl⟩
  rintro (here | ⟨_, _, _, none⟩)
  · exact here
  · cases none

/-- What a run leaves behind at its end or where it is broken off was there before its first turn, in
it, or is left behind by the rest. -/
theorem left_by_turns {middle : Parts} (taken : ¬ (component = .management ∧ partialSeen = true))
    (turns : (run.turning ids component parts).ends = some (report, middle))
    (left : stop = after ∨
      stop ∈ (run.driving ids (component :: components) partialSeen parts).stops) :
    stop = parts ∨ stop ∈ (run.turning ids component parts).stops ∨
      (stop = after ∨
        stop ∈ (run.driving ids components (partialSeen || report.isPartial) middle).stops) := by
  rcases left with ended | member
  · exact .inr (.inr (.inl ended))
  · exact ((mem_driving_stops taken turns).1 member).imp_right (Or.imp_right .inr)

/-- What is left where the management plane is left out is left in front of it or later. -/
theorem left_by_skips
    (left : stop = after ∨ stop ∈ (run.driving ids (.management :: components) true parts).stops) :
    stop = parts ∨ (stop = after ∨ stop ∈ (run.driving ids components true parts).stops) := by
  rcases left with ended | member
  · exact .inr (.inl ended)
  · exact ((mem_driving_stops_of_skipped rfl).1 member).imp_right .inr

/-- The management plane comes last. -/
theorem nil_of_management {rest : List Component} (last : component :: rest <:+ Component.ordered)
    (skipped : component = .management) : rest = [] := by
  obtain ⟨before, split⟩ := last
  rcases before with _ | ⟨_, _ | ⟨_, _ | ⟨_, before⟩⟩⟩ <;>
    simp_all [Component.ordered]

/-- A component does not come again. -/
theorem not_mem_of_suffix {rest : List Component} (last : component :: rest <:+ Component.ordered) :
    component ∉ rest := by
  have once : (component :: rest).Nodup := last.sublist.nodup (by decide)
  exact (List.nodup_cons.1 once).1

/-- What is at rest and not driven stays as it is. -/
theorem driving_others (lifelike : parts.Lifelike)
    (ends : (run.driving ids components partialSeen parts).ends = some (reports, after))
    (left : stop = after ∨ stop ∈ (run.driving ids components partialSeen parts).stops)
    (other : component ∉ components) (still : (parts component).status.isInFlight = false) :
    stop component = parts component := by
  induction components, partialSeen, parts, reports, lifelike, ends using driving_induct with
  | done =>
    obtain rfl : stop = after := left.elim id nofun
    rfl
  | skips rest parts later lifelike ends remains inductionHypothesis =>
    rcases left_by_skips left with rfl | left
    · rfl
    · exact inductionHypothesis left (fun member => other (List.mem_cons_of_mem _ member)) still
  | turns driven rest partialSeen parts report middle later lifelike ends taken turns turned remains
      inductionHypothesis =>
    have differs : component ≠ driven := fun same => other (same ▸ List.mem_cons_self)
    have kept := turned.moves.others component differs
    rcases left_by_turns taken turns left with rfl | member | left
    · rfl
    · rcases turning_stops lifelike turns member differs with same | same
      · exact same
      · rw [same, Part.pausing_eq still]
    · rw [← kept]
      exact inductionHypothesis left (fun member => other (List.mem_cons_of_mem _ member))
        (kept ▸ still)

/-- All parts stay lifelike while a run that does not fail drives them. -/
theorem driving_lifelike (lifelike : parts.Lifelike)
    (ends : (run.driving ids components partialSeen parts).ends = some (reports, after)) :
    after.Lifelike := by
  induction components, partialSeen, parts, reports, lifelike, ends using driving_induct with
  | done partialSeen lifelike => exact lifelike
  | skips _ _ _ _ _ _ inductionHypothesis => exact inductionHypothesis
  | turns _ _ _ _ _ _ _ _ _ _ _ _ _ inductionHypothesis => exact inductionHypothesis

/-- Where everything is at rest and nothing is upgraded, nothing happens. -/
theorem driving_still (lifelike : parts.Lifelike) (rests : parts.Rest)
    (ends : (run.driving ids components partialSeen parts).ends = some (reports, after))
    (left : stop = after ∨ stop ∈ (run.driving ids components partialSeen parts).stops)
    (none : ∀ report ∈ reports, report.upgraded = false) : stop = parts := by
  induction components, partialSeen, parts, reports, lifelike, ends using driving_induct with
  | done => exact left.elim id nofun
  | skips rest parts later lifelike ends remains inductionHypothesis =>
    rcases left_by_skips left with here | left
    · exact here
    · exact inductionHypothesis rests left fun report member =>
        none report (List.mem_cons_of_mem _ member)
  | turns driven rest partialSeen parts report middle later lifelike ends taken turns turned remains
      inductionHypothesis =>
    have succeeded : report.outcome = .alreadySucceeded := by
      have idle := none report List.mem_cons_self
      rcases turned.outcome with ⟨same, -⟩ | ⟨same, -⟩
      · exact same
      · rw [ComponentReport.upgraded, same] at idle
        split at idle <;> simp at idle
    obtain ⟨rfl, quiet⟩ := turning_still lifelike (rests driven) turns succeeded
    rcases left_by_turns taken turns left with here | member | left
    · exact here
    · rw [quiet] at member
      cases member
    · exact inductionHypothesis rests left fun report member =>
        none report (List.mem_cons_of_mem _ member)

/-!
## The resumed run
-/

/-- Whether a component was upgraded in part before decides only on the management plane, so it need
not be known where a component pauses later. -/
theorem driving_unseen (last : components <:+ Component.ordered) (lifelike : parts.Lifelike)
    (ends : (run.driving ids components partialSeen parts).ends = some (reports, after))
    (only : seenAgain = true → partialSeen = true)
    (lasting : partialSeen = true → seenAgain = true ∨ reports.any ComponentReport.pauses = true) :
    (run.driving ids components seenAgain parts).ends = some (reports, after) := by
  induction components, partialSeen, parts, reports, lifelike, ends using driving_induct
    generalizing seenAgain with
  | done => rfl
  | skips rest parts later lifelike ends remains inductionHypothesis =>
    have seen : seenAgain = true := by
      obtain rfl := nil_of_management last rfl
      cases remains
      exact (lasting rfl).resolve_right (by simp [ComponentReport.pauses])
    rw [seen]
    exact ends
  | turns driven rest partialSeen parts report middle later lifelike ends taken turns turned remains
      inductionHypothesis =>
    have takenAgain : ¬ (driven = .management ∧ seenAgain = true) :=
      fun skipped => taken ⟨skipped.1, only skipped.2⟩
    refine driving_turns_ends takenAgain turns
      (inductionHypothesis ((List.suffix_cons _ _).trans last) ?_ ?_)
    · intro seen
      rcases Bool.or_eq_true_iff.1 seen with seen | isPartial
      · simp [only seen]
      · simp [isPartial]
    · intro seen
      rcases Bool.or_eq_true_iff.1 seen with seen | isPartial
      · rcases lasting seen with seen | pauses
        · simp [seen]
        · rw [List.any_cons, Bool.or_eq_true] at pauses
          rcases pauses with pauses | pauses
          · simp [(turned.isPartial_of_pauses pauses).1]
          · exact .inr pauses
      · simp [isPartial]

/-- Where a component pauses it was upgraded in part. -/
theorem any_isPartial_of_pauses (lifelike : parts.Lifelike)
    (ends : (run.driving ids components partialSeen parts).ends = some (reports, after))
    (pauses : reports.any ComponentReport.pauses = true) :
    reports.any ComponentReport.isPartial = true := by
  induction components, partialSeen, parts, reports, lifelike, ends using driving_induct with
  | done => cases pauses
  | skips rest parts later lifelike ends remains inductionHypothesis =>
    have later := inductionHypothesis (by simpa [ComponentReport.pauses] using pauses)
    simp [later]
  | turns driven rest partialSeen parts report middle later lifelike ends taken turns turned remains
      inductionHypothesis =>
    rcases Bool.or_eq_true_iff.1 pauses with pauses | pauses
    · simp [(turned.isPartial_of_pauses pauses).1]
    · simp [inductionHypothesis pauses]

/-- A run that is begun again goes as it would have gone. -/
theorem driving_afresh (last : components <:+ Component.ordered) (lifelike : parts.Lifelike)
    (ends : (run.driving ids components partialSeen parts).ends = some (reports, after))
    (only : seenAgain = true → partialSeen = true)
    (lasting : (partialSeen || reports.any ComponentReport.isPartial) = true →
      (seenAgain || reports.any ComponentReport.pauses) = true) :
    ∃ again left, (run.driving ids components seenAgain parts).ends = some (again, left) ∧
      (seenAgain || again.any ComponentReport.isPartial) =
        (partialSeen || reports.any ComponentReport.isPartial) := by
  refine ⟨reports, after, driving_unseen last lifelike ends only fun seen => ?_, ?_⟩
  · exact Bool.or_eq_true_iff.1 (lasting (by simp [seen]))
  · have pausing := any_isPartial_of_pauses lifelike ends
    rw [Bool.eq_iff_iff]
    simp only [Bool.or_eq_true] at lasting ⊢
    exact ⟨Or.imp_left only, fun isPartial => (lasting isPartial).imp_right pausing⟩

/-- The turn of a component that is found where its turn has left it: it had succeeded, or it is
upgraded again and pauses again. -/
theorem turning_replayed {middle : Parts} (turned : Turned run ids component parts report middle)
    (same : stop component = middle component)
    (undone : report.pauses = true → stop = middle) :
    ∃ again, (run.turning ids component stop).ends = some (again, stop) ∧
      again.isPartial = report.pauses := by
  by_cases pauses : report.pauses = true
  · obtain rfl := undone pauses
    refine ⟨report, (turned.repeats (turned.pauses_iff.1 pauses)).2, ?_⟩
    rw [pauses, (turned.isPartial_of_pauses pauses).1]
  · have succeeded : (stop component).observation.status = .success := by
      rw [same]
      exact turned.succeeds pauses
    refine ⟨⟨component, .alreadySucceeded, some (stop component).observation⟩, ?_, ?_⟩
    · rw [turning_of_rest (same ▸ turned.lifelike component) (same ▸ turned.still),
        concluding_of_success succeeded]
      rfl
    · rw [Bool.eq_false_iff.2 pauses]
      rfl

/-- Whether a component was upgraded in part before is known alike after a turn that is taken again,
if that counts as one of an upgrade in part where it has to and only where it may. -/
theorem seen_onwards {again : ComponentReport} {later : List ComponentReport}
    (only : seenAgain = true → partialSeen = true)
    (lasting : (partialSeen || (report :: later).any ComponentReport.isPartial) = true →
      (seenAgain || (report :: later).any ComponentReport.pauses) = true)
    (least : again.isPartial = true → report.isPartial = true)
    (most : report.pauses = true → again.isPartial = true) :
    ((seenAgain || again.isPartial) = true → (partialSeen || report.isPartial) = true) ∧
      ((partialSeen || report.isPartial || later.any ComponentReport.isPartial) = true →
        (seenAgain || again.isPartial || later.any ComponentReport.pauses) = true) := by
  simp only [List.any_cons, ← Bool.or_assoc, Bool.or_eq_true] at lasting ⊢
  exact ⟨Or.imp only least, fun seen => (lasting seen).imp_left (Or.imp_right most)⟩

/-- Wherever a run is broken off that would have come to an end, it comes to one when it is executed
again, and then as many components count as upgraded in part: none, or some. -/
theorem driving_again (last : components <:+ Component.ordered) (lifelike : parts.Lifelike)
    (ends : (run.driving ids components partialSeen parts).ends = some (reports, after))
    (left : stop = after ∨ stop ∈ (run.driving ids components partialSeen parts).stops)
    (only : seenAgain = true → partialSeen = true)
    (lasting : (partialSeen || reports.any ComponentReport.isPartial) = true →
      (seenAgain || reports.any ComponentReport.pauses) = true)
    (allowed : reports.Pairwise ComponentReport.Allows) :
    ∃ again left, (run.driving ids components seenAgain stop).ends = some (again, left) ∧
      (seenAgain || again.any ComponentReport.isPartial) =
        (partialSeen || reports.any ComponentReport.isPartial) := by
  induction components, partialSeen, parts, reports, lifelike, ends using driving_induct
    generalizing seenAgain with
  | done partialSeen lifelike ends =>
    obtain rfl : stop = after := left.elim id nofun
    exact driving_afresh last lifelike ends only lasting
  | skips rest parts later lifelike ends remains inductionHypothesis =>
    -- Nothing comes after the management plane.
    obtain rfl := nil_of_management last rfl
    cases remains
    obtain rfl : stop = after := (left_by_skips left).elim id fun left => left.elim id nofun
    exact driving_afresh last lifelike ends only lasting
  | turns driven rest partialSeen parts report middle later lifelike ends taken turns turned remains
      inductionHypothesis =>
    rcases left_by_turns taken turns left with rfl | left
    · exact driving_afresh last lifelike ends only lasting
    · have behind := (List.suffix_cons driven rest).trans last
      -- The turn is taken again, and the rest goes on from there.
      obtain ⟨again, next, others, final, turnsAgain, goesOn, same⟩ : ∃ again next others final,
          (run.turning ids driven stop).ends = some (again, next) ∧
          (run.driving ids rest (seenAgain || again.isPartial) next).ends = some (others, final) ∧
          (seenAgain || again.isPartial || others.any ComponentReport.isPartial) =
            (partialSeen || report.isPartial || later.any ComponentReport.isPartial) := by
        rcases left with inTurn | left
        · obtain ⟨again, turnsAgain, fits⟩ := turning_again lifelike turns inTurn
          obtain ⟨least, most⟩ := turned.isPartial_again fits
          obtain ⟨only, lasting⟩ := seen_onwards only lasting least most
          obtain ⟨others, final, goesOn⟩ :=
            driving_afresh behind turned.lifelike remains only lasting
          exact ⟨again, middle, others, final, turnsAgain, goesOn⟩
        · have kept : stop driven = middle driven :=
            driving_others turned.lifelike remains left (not_mem_of_suffix last) turned.still
          have undone : report.pauses = true → stop = middle := fun pauses =>
            driving_still turned.lifelike (turned.repeats (turned.pauses_iff.1 pauses)).1 remains
              left fun report member => (List.pairwise_cons.1 allowed).1 report member pauses
          obtain ⟨again, turnsAgain, isPartial⟩ := turning_replayed turned kept undone
          obtain ⟨only, lasting⟩ := seen_onwards only lasting
            (fun seen => (turned.isPartial_of_pauses (isPartial ▸ seen)).1)
            (fun pauses => isPartial.trans pauses)
          obtain ⟨others, final, goesOn⟩ :=
            inductionHypothesis behind left only lasting (List.pairwise_cons.1 allowed).2
          exact ⟨again, stop, others, final, turnsAgain, goesOn⟩
      refine ⟨again :: others, final, driving_turns_ends ?_ turnsAgain goesOn, ?_⟩
      · exact fun skipped => taken ⟨skipped.1, only skipped.2⟩
      · simpa only [List.any_cons, ← Bool.or_assoc] using same

/-!
## Runs that do not go the same way again
-/

/-- Every component but the management plane that was not left paused has succeeded. -/
theorem driving_succeeds (last : components <:+ Component.ordered) (lifelike : parts.Lifelike)
    (ends : (run.driving ids components partialSeen parts).ends = some (reports, after))
    (none : ¬ reports.any ComponentReport.pauses = true) :
    ∀ component ∈ components, component ≠ .management → (after component).status = .success := by
  induction components, partialSeen, parts, reports, lifelike, ends using driving_induct with
  | done => nofun
  | skips rest parts later lifelike ends remains inductionHypothesis =>
    intro component member customizable
    have member : component ∈ rest := (List.mem_cons.1 member).resolve_left customizable
    refine inductionHypothesis ((List.suffix_cons _ _).trans last) ?_ component member customizable
    simpa [ComponentReport.pauses] using none
  | turns driven rest partialSeen parts report middle later lifelike ends taken turns turned remains
      inductionHypothesis =>
    intro component member customizable
    rw [List.any_cons, Bool.or_eq_true, not_or] at none
    rcases List.mem_cons.1 member with rfl | member
    · rw [driving_others turned.lifelike remains (.inl rfl) (not_mem_of_suffix last) turned.still]
      exact turned.succeeds none.1
    · exact inductionHypothesis ((List.suffix_cons _ _).trans last) none.2 component member
        customizable

/-- Of components that had succeeded none counts as upgraded in part. -/
theorem not_isPartial_of_succeeded (last : components <:+ Component.ordered)
    (lifelike : parts.Lifelike)
    (succeeded : ∀ component ∈ components, component ≠ .management →
      (parts component).status = .success)
    (ends : (run.driving ids components partialSeen parts).ends = some (reports, after)) :
    reports.any ComponentReport.isPartial = false := by
  induction components, partialSeen, parts, reports, lifelike, ends using driving_induct with
  | done => rfl
  | skips rest parts later lifelike ends remains inductionHypothesis =>
    have later := inductionHypothesis ((List.suffix_cons _ _).trans last)
      fun component member => succeeded component (List.mem_cons_of_mem _ member)
    simp [ComponentReport.isPartial, later]
  | turns driven rest partialSeen parts report middle later lifelike ends taken turns turned remains
      inductionHypothesis =>
    by_cases skipped : driven = .management
    · obtain rfl := nil_of_management last skipped
      cases remains
      have fixed : run.isPartial driven = false := isPartial_eq_false (by rw [skipped]; rfl)
      rcases turned.outcome with ⟨same, -⟩ | ⟨same, -⟩
      · simp [ComponentReport.isPartial, same]
      · simp [ComponentReport.isPartial, same, fixed]
    · have done := succeeded driven List.mem_cons_self skipped
      rw [turning_of_rest (lifelike driven) (by rw [done]; rfl), concluding_of_success done] at turns
      cases turns
      have later := inductionHypothesis ((List.suffix_cons _ _).trans last)
        fun component member => succeeded component (List.mem_cons_of_mem _ member)
      simp [ComponentReport.isPartial, later]

/-- A run that upgrades a component would heed a stop while that is at work. -/
theorem exists_driving_stop (lifelike : parts.Lifelike)
    (ends : (run.driving ids components partialSeen parts).ends = some (reports, after))
    (member : report ∈ reports) (upgraded : report.upgraded = true) :
    ∃ stop ∈ (run.driving ids components partialSeen parts).stops, ¬ stop.Rest := by
  induction components, partialSeen, parts, reports, lifelike, ends using driving_induct with
  | done => cases member
  | skips rest parts later lifelike ends remains inductionHypothesis =>
    have member : report ∈ later := by
      rcases List.mem_cons.1 member with rfl | member
      · cases upgraded
      · exact member
    obtain ⟨stop, heeded, works⟩ := inductionHypothesis member
    exact ⟨stop, (mem_driving_stops_of_skipped rfl).2 (.inr heeded), works⟩
  | turns driven rest partialSeen parts first middle later lifelike ends taken turns turned remains
      inductionHypothesis =>
    rcases List.mem_cons.1 member with rfl | member
    · have waited : report.outcome ≠ .alreadySucceeded := by
        intro same
        simp [ComponentReport.upgraded, same] at upgraded
      obtain ⟨stop, heeded, works⟩ := exists_turning_stop turns waited lifelike
      refine ⟨stop, (mem_driving_stops taken turns).2 (.inr (.inl heeded)), fun rests => ?_⟩
      rw [rests driven] at works
      cases works
    · obtain ⟨stop, heeded, works⟩ := inductionHypothesis member
      exact ⟨stop, (mem_driving_stops taken turns).2 (.inr (.inr heeded)), works⟩

/-- A component that has paused cannot be upgraded again while another one is at work. -/
theorem driving_fails_of_paused (taken : component ≠ .management)
    (lifelike : (stop component).Lifelike) (paused : (stop component).status = .paused)
    (works : ¬ stop.Rest) :
    (run.driving ids (component :: components) seenAgain stop).ends = none := by
  cases ends : (run.driving ids (component :: components) seenAgain stop).ends with
  | none => rfl
  | some ended =>
    rcases driving_cases ends with ⟨skipped, _⟩ | ⟨_, report, middle, later, _, turns, _⟩
    · exact absurd skipped taken
    · rw [turning_of_rest lifelike (by rw [paused]; rfl)] at turns
      rcases concluding_cases turns with ⟨succeeded, _⟩ | ⟨inFlight, _⟩ | ⟨_, _, rests, _⟩
      · simp [Part.observation, paused] at succeeded
      · simp [Part.observation, paused, Status.isInFlight, Status.inFlight] at inFlight
      · exact absurd rests works

/-- A component that had succeeded does not keep a run from failing. -/
theorem driving_fails_of_succeeded (taken : component ≠ .management)
    (lifelike : (stop component).Lifelike) (succeeded : (stop component).status = .success)
    (fails : ∀ seenAgain, (run.driving ids components seenAgain stop).ends = none) :
    (run.driving ids (component :: components) seenAgain stop).ends = none := by
  cases ends : (run.driving ids (component :: components) seenAgain stop).ends with
  | none => rfl
  | some ended =>
    rcases driving_cases ends with ⟨skipped, _⟩ | ⟨_, report, middle, later, _, turns, remains⟩
    · exact absurd skipped taken
    · rw [turning_of_rest lifelike (by rw [succeeded]; rfl), concluding_of_success succeeded] at turns
      cases turns
      rw [fails] at remains
      cases remains

/-- Where a component is upgraded after one that has paused, the run can be broken off so that it
fails when it is executed again. -/
theorem exists_driving_fails (last : components <:+ Component.ordered) (lifelike : parts.Lifelike)
    (ends : (run.driving ids components partialSeen parts).ends = some (reports, after))
    (barred : ¬ reports.Pairwise ComponentReport.Allows) :
    ∃ stop ∈ (run.driving ids components partialSeen parts).stops,
      ∀ seenAgain, (run.driving ids components seenAgain stop).ends = none := by
  induction components, partialSeen, parts, reports, lifelike, ends using driving_induct with
  | done => exact absurd List.Pairwise.nil barred
  | skips rest parts later lifelike ends remains inductionHypothesis =>
    obtain rfl := nil_of_management last rfl
    cases remains
    exact absurd (List.pairwise_singleton _ _) barred
  | turns driven rest partialSeen parts report middle later lifelike ends taken turns turned remains
      inductionHypothesis =>
    have proper : driven ≠ .management := by
      intro skipped
      obtain rfl := nil_of_management last skipped
      cases remains
      exact barred (List.pairwise_singleton _ _)
    have kept : ∀ stop ∈ (run.driving ids rest (partialSeen || report.isPartial) middle).stops,
        stop driven = middle driven := fun stop heeded =>
      driving_others turned.lifelike remains (.inr heeded) (not_mem_of_suffix last) turned.still
    by_cases pauses : report.pauses = true
    · obtain ⟨entry, member, upgraded⟩ : ∃ entry ∈ later, entry.upgraded = true := by
        by_contra none
        have idle : ∀ entry ∈ later, entry.upgraded = false := by simpa using none
        exact barred (List.pairwise_cons.2 ⟨fun entry member _ => idle entry member,
          List.pairwise_of_forall_mem_list fun _ _ entry member _ => idle entry member⟩)
      obtain ⟨stop, heeded, works⟩ := exists_driving_stop turned.lifelike remains member upgraded
      have same := kept stop heeded
      refine ⟨stop, (mem_driving_stops taken turns).2 (.inr (.inr heeded)), fun _ => ?_⟩
      refine driving_fails_of_paused proper (same ▸ turned.lifelike driven) ?_ works
      rw [same]
      exact turned.pauses_iff.1 pauses
    · have remaining : ¬ later.Pairwise ComponentReport.Allows := fun remaining =>
        barred (List.pairwise_cons.2 ⟨fun _ _ paused => absurd paused pauses, remaining⟩)
      obtain ⟨stop, heeded, fails⟩ :=
        inductionHypothesis ((List.suffix_cons _ _).trans last) remaining
      have same := kept stop heeded
      refine ⟨stop, (mem_driving_stops taken turns).2 (.inr (.inr heeded)), fun _ => ?_⟩
      refine driving_fails_of_succeeded proper (same ▸ turned.lifelike driven) ?_ fails
      rw [same]
      exact turned.succeeds pauses

end Run

end FabricUpgrade
