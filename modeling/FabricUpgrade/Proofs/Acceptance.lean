import Mathlib.Data.List.Nodup
import FabricUpgrade.Resource.Validation

/-!
# Accepted runs

A declared run is accepted just if it keeps six rules, and otherwise the first one that it breaks is
told (`RunObject.fault?_first`).  `Spec.Keeps` says what each rule asks for, and `Spec.Tells` what
is told of a rule that is broken; of a list of groups it is the first name that is blank or stands
in front already, with its place.
-/

namespace FabricUpgrade

open Text

/-- A text is blank exactly if nothing of it is left when it is trimmed. -/
theorem Text.isBlankText_iff {text : String} : isBlankText text = true ↔ trim text = "" :=
  String.isEmpty_iff

/-- The text begins as the URL of a manager has to. -/
def Text.IsWebAddress (text : String) : Prop :=
  "https://".toList <+: text.toList ∨ "http://".toList <+: text.toList

/-- The address of a manager is not empty. -/
theorem Text.IsWebAddress.ne_empty {text : String} (web : IsWebAddress text) : text ≠ "" := by
  rintro rfl
  rcases web with secure | plain
  · exact absurd (List.prefix_nil.1 secure) (by decide)
  · exact absurd (List.prefix_nil.1 plain) (by decide)

namespace Spec

/-!
## The names of groups
-/

/-- Names that groups can be told apart by: none is blank, and none stands twice. -/
structure Names (ids : List String) : Prop where
  named : ∀ id ∈ ids, trim id ≠ ""
  distinct : ids.Nodup

/-- What is told of a name behind others that do not go with it. -/
inductive Spoils (field : String) (earlier : List String) (id : String) : SpecFault → Prop
  | blank (blank : trim id = "") : Spoils field earlier id (.emptyGroupId field earlier.length)
  | repeated (named : trim id ≠ "") (known : id ∈ earlier) :
      Spoils field earlier id (.repeatedGroupId field id)

variable {field : String} {seen earlier ids : List String} {id : String} {fault told : SpecFault}

/-- The first of some names can be told apart if all of them can. -/
theorem Names.of_append {later : List String} (names : Names (earlier ++ later)) : Names earlier :=
  ⟨fun id there => names.named id (List.mem_append_left _ there),
    (List.nodup_append.1 names.distinct).1⟩

/-- One name more can be told apart exactly if it is not blank and not among those before. -/
theorem Names.snoc_iff : Names (earlier ++ [id]) ↔ Names earlier ∧ trim id ≠ "" ∧ id ∉ earlier := by
  constructor
  · intro names
    obtain ⟨-, -, apart⟩ := List.nodup_append.1 names.distinct
    exact ⟨names.of_append, names.named id (by simp),
      fun there => apart id there id (List.mem_singleton.2 rfl) rfl⟩
  · rintro ⟨names, named, unknown⟩
    refine ⟨fun other there => ?_, List.nodup_append.2 ⟨names.distinct, List.nodup_singleton _, ?_⟩⟩
    · rcases List.mem_append.1 there with before | last
      · exact names.named other before
      · exact List.mem_singleton.1 last ▸ named
    · intro other there last isLast same
      exact unknown (List.mem_singleton.1 isLast ▸ same ▸ there)

/-- A name that spoils the others cannot be told apart from them. -/
theorem Spoils.not_names (spoils : Spoils field earlier id fault) : ¬ Names (earlier ++ [id]) := by
  intro names
  obtain ⟨-, named, unknown⟩ := Names.snoc_iff.1 names
  cases spoils with
  | blank blank => exact named blank
  | repeated _ known => exact unknown known

/-- Only one thing is told of a name that spoils the others. -/
theorem Spoils.unique (first : Spoils field earlier id fault)
    (second : Spoils field earlier id told) : fault = told := by
  cases first <;> cases second <;> first | rfl | contradiction

/-- The first of the names that does not go with those in front of it is the one that is told of;
some stand in front of them all. -/
def FirstSpoilt (field : String) (earlier ids : List String) (fault : SpecFault) : Prop :=
  ∃ before id after, ids = before ++ id :: after ∧ Names (earlier ++ before) ∧
    Spoils field (earlier ++ before) id fault

/-- Names of which one is spoilt cannot all be told apart. -/
theorem FirstSpoilt.not_names (first : FirstSpoilt field [] ids fault) : ¬ Names ids := by
  obtain ⟨before, id, after, rfl, -, spoils⟩ := first
  rw [List.append_cons]
  exact fun names => spoils.not_names names.of_append

/-- A name that does not go with those in front of it is the first one. -/
theorem firstSpoilt_cons_of_spoils (names : Names earlier)
    (spoils : Spoils field earlier id told) :
    FirstSpoilt field earlier (id :: ids) fault ↔ fault = told := by
  constructor
  · rintro ⟨before, other, after, split, goes, otherSpoils⟩
    cases before with
    | nil =>
      obtain ⟨rfl, -⟩ := List.cons.inj split
      rw [List.append_nil] at otherSpoils
      exact otherSpoils.unique spoils
    | cons first before =>
      obtain ⟨rfl, -⟩ := List.cons.inj split
      rw [List.append_cons] at goes
      exact absurd goes.of_append spoils.not_names
  · rintro rfl
    exact ⟨[], id, ids, rfl, by rwa [List.append_nil], by rwa [List.append_nil]⟩

/-- A name that goes with those in front of it is one of those in front of the others. -/
theorem firstSpoilt_cons_of_names (goes : Names (earlier ++ [id])) :
    FirstSpoilt field earlier (id :: ids) fault ↔
      FirstSpoilt field (earlier ++ [id]) ids fault := by
  constructor
  · rintro ⟨before, other, after, split, names, spoils⟩
    cases before with
    | nil =>
      obtain ⟨rfl, -⟩ := List.cons.inj split
      rw [List.append_nil] at spoils
      exact absurd goes spoils.not_names
    | cons first before =>
      obtain ⟨rfl, rest⟩ := List.cons.inj split
      rw [List.append_cons] at names spoils
      exact ⟨before, other, after, rest, names, spoils⟩
  · rintro ⟨before, other, after, rfl, names, spoils⟩
    rw [← List.append_cons] at names spoils
    exact ⟨id :: before, other, after, rfl, names, spoils⟩

/-- Names are gone through from the front, with those seen so far in the opposite order. -/
theorem idFaultAfter?_eq_some_iff (names : Names seen.reverse) :
    idFaultAfter? field seen ids = some fault ↔ FirstSpoilt field seen.reverse ids fault := by
  induction ids generalizing seen with
  | nil => simp [idFaultAfter?, FirstSpoilt]
  | cons id rest inductionHypothesis =>
    rw [idFaultAfter?]
    by_cases blank : trim id = ""
    · have spoils : Spoils field seen.reverse id (.emptyGroupId field seen.length) := by
        rw [← List.length_reverse]
        exact .blank blank
      rw [if_pos (isBlankText_iff.2 blank), firstSpoilt_cons_of_spoils names spoils,
        Option.some.injEq, eq_comm]
    · rw [if_neg (mt isBlankText_iff.1 blank)]
      by_cases known : id ∈ seen
      · rw [if_pos known,
          firstSpoilt_cons_of_spoils names (.repeated blank (List.mem_reverse.2 known)),
          Option.some.injEq, eq_comm]
      · have goes : Names (id :: seen).reverse := by
          rw [List.reverse_cons]
          exact Names.snoc_iff.2 ⟨names, blank, mt List.mem_reverse.1 known⟩
        rw [if_neg known, inductionHypothesis goes, List.reverse_cons,
          firstSpoilt_cons_of_names (by rwa [List.reverse_cons] at goes)]

/-- Behind names that were seen no fault is found exactly if all of them can be told apart. -/
theorem idFaultAfter?_eq_none_iff (names : Names seen.reverse) :
    idFaultAfter? field seen ids = none ↔ Names (seen.reverse ++ ids) := by
  induction ids generalizing seen with
  | nil => simpa [idFaultAfter?] using names
  | cons id rest inductionHypothesis =>
    have shifted : seen.reverse ++ id :: rest = (id :: seen).reverse ++ rest := by simp
    rw [idFaultAfter?, shifted]
    by_cases goes : Names (id :: seen).reverse
    · have parts := goes
      rw [List.reverse_cons, Names.snoc_iff] at parts
      obtain ⟨-, named, unknown⟩ := parts
      rw [if_neg (mt isBlankText_iff.1 named), if_neg (mt List.mem_reverse.2 unknown),
        inductionHypothesis goes]
    · have spoilt : ¬ Names ((id :: seen).reverse ++ rest) := mt Names.of_append goes
      refine iff_of_false (fun unfaulty => ?_) spoilt
      rw [List.reverse_cons, Names.snoc_iff] at goes
      by_cases blank : trim id = ""
      · rw [if_pos (isBlankText_iff.2 blank)] at unfaulty
        cases unfaulty
      · rw [if_neg (mt isBlankText_iff.1 blank), if_pos] at unfaulty
        · cases unfaulty
        · by_contra unknown
          exact goes ⟨names, blank, mt List.mem_reverse.1 unknown⟩

/-- No names can be told apart. -/
theorem names_nil : Names [] :=
  ⟨nofun, List.nodup_nil⟩

/-- No fault is found exactly if the names can be told apart. -/
theorem idFault?_eq_none_iff : idFault? field ids = none ↔ Names ids :=
  idFaultAfter?_eq_none_iff names_nil

/-- A fault is found exactly if it is what is told of the first name that is spoilt. -/
theorem idFault?_eq_some_iff : idFault? field ids = some fault ↔ FirstSpoilt field [] ids fault :=
  idFaultAfter?_eq_some_iff names_nil

/-- The blank name stands in front of the second `rack`. -/
example : idFault? "edgeGroups" ["rack", " ", "rack"] = some (.emptyGroupId "edgeGroups" 1) := by
  decide +kernel

/-- Only one thing is told of the first name that is spoilt. -/
theorem FirstSpoilt.unique (first : FirstSpoilt field [] ids fault)
    (second : FirstSpoilt field [] ids told) : fault = told := by
  rw [← idFault?_eq_some_iff] at first second
  exact Option.some.inj (first.symm.trans second)

/-!
## The rules
-/

/-- The rules for a declared run. -/
inductive Rule where
  | preparation
  | manager
  | wait
  | edgeGroups
  | hostGroups
  | immutability
deriving DecidableEq, Repr

/-- The rules in the order in which they are looked at. -/
def Rule.inOrder : List Rule :=
  [preparation, manager, wait, edgeGroups, hostGroups, immutability]

/-- What a rule asks of a declared run for which some preparation may have been recorded. -/
def Keeps (spec : Spec) (recorded : Option String) : Rule → Prop
  | .preparation => trim spec.upgradePrepareReadyId ≠ ""
  | .manager => IsWebAddress (trim spec.manager.url) ∧ trim spec.manager.credentials.name ≠ ""
  | .wait =>
    (1 ≤ spec.wait.timeout ∧ 1 ≤ spec.wait.interval) ∧
      spec.wait.timeout ≤ 30 * 24 * 3600 ∧ spec.wait.interval ≤ 30 * 24 * 3600 ∧
      spec.wait.delay ≤ 30 * 24 * 3600
  | .edgeGroups => Names (spec.edgeGroups.map EdgeGroup.id)
  | .hostGroups => Names (spec.hostGroups.map HostGroup.id)
  | .immutability => ∀ previous ∈ recorded, previous = spec.upgradePrepareReadyId

/-- What is told of a rule that is broken. -/
inductive Tells (spec : Spec) (recorded : Option String) : Rule → SpecFault → Prop
  | noPreparation (blank : trim spec.upgradePrepareReadyId = "") :
      Tells spec recorded .preparation .noPreparation
  | noUrl (blank : trim spec.manager.url = "") : Tells spec recorded .manager .noUrl
  | foreignScheme (given : trim spec.manager.url ≠ "")
      (foreign : ¬ IsWebAddress (trim spec.manager.url)) :
      Tells spec recorded .manager (.foreignScheme (trim spec.manager.url))
  | noSecretName (web : IsWebAddress (trim spec.manager.url))
      (blank : trim spec.manager.credentials.name = "") :
      Tells spec recorded .manager .noSecretName
  | shortTimeout (short : spec.wait.timeout < 1) :
      Tells spec recorded .wait (.belowMinimum "timeout" spec.wait.timeout)
  | shortInterval (timeout : 1 ≤ spec.wait.timeout) (short : spec.wait.interval < 1) :
      Tells spec recorded .wait (.belowMinimum "interval" spec.wait.interval)
  | longTimeout (least : 1 ≤ spec.wait.timeout ∧ 1 ≤ spec.wait.interval)
      (long : 30 * 24 * 3600 < spec.wait.timeout) :
      Tells spec recorded .wait (.aboveMaximum "timeout" spec.wait.timeout)
  | longInterval (least : 1 ≤ spec.wait.timeout ∧ 1 ≤ spec.wait.interval)
      (timeout : spec.wait.timeout ≤ 30 * 24 * 3600) (long : 30 * 24 * 3600 < spec.wait.interval) :
      Tells spec recorded .wait (.aboveMaximum "interval" spec.wait.interval)
  | longDelay (least : 1 ≤ spec.wait.timeout ∧ 1 ≤ spec.wait.interval)
      (timeout : spec.wait.timeout ≤ 30 * 24 * 3600)
      (interval : spec.wait.interval ≤ 30 * 24 * 3600)
      (long : 30 * 24 * 3600 < spec.wait.delay) :
      Tells spec recorded .wait (.aboveMaximum "delay" spec.wait.delay)
  | edgeGroups {fault : SpecFault}
      (first : FirstSpoilt "edgeGroups" [] (spec.edgeGroups.map EdgeGroup.id) fault) :
      Tells spec recorded .edgeGroups fault
  | hostGroups {fault : SpecFault}
      (first : FirstSpoilt "hostGroups" [] (spec.hostGroups.map HostGroup.id) fault) :
      Tells spec recorded .hostGroups fault
  | changedPreparation {previous : String} (known : recorded = some previous)
      (changed : previous ≠ spec.upgradePrepareReadyId) :
      Tells spec recorded .immutability (.changedPreparation previous spec.upgradePrepareReadyId)

section Rules

variable {spec : Spec} {recorded : Option String} {rule : Rule}

/-- The check of a URL looks for what the address of a manager begins with. -/
theorem isWebAddress_iff {text : String} :
    ("https://".toList.isPrefixOf text.toList || "http://".toList.isPrefixOf text.toList) = true ↔
      IsWebAddress text := by
  rw [Bool.or_eq_true, List.isPrefixOf_iff_prefix, List.isPrefixOf_iff_prefix, IsWebAddress]

/-- The rule for the manager is kept, or it is told how it is broken. -/
theorem managerFault?_cases (spec : Spec) (recorded : Option String) :
    (spec.managerFault? = none ∧ spec.Keeps recorded .manager) ∨
      ∃ fault, spec.managerFault? = some fault ∧ spec.Tells recorded .manager fault := by
  unfold managerFault?
  by_cases given : trim spec.manager.url = ""
  · exact .inr ⟨_, if_pos (String.isEmpty_iff.2 given), .noUrl given⟩
  rw [if_neg (mt String.isEmpty_iff.1 given)]
  by_cases web : IsWebAddress (trim spec.manager.url)
  · rw [isWebAddress_iff.2 web, if_neg (by decide)]
    by_cases named : trim spec.manager.credentials.name = ""
    · exact .inr ⟨_, if_pos (isBlankText_iff.2 named), .noSecretName web named⟩
    · exact .inl ⟨if_neg (mt isBlankText_iff.1 named), web, named⟩
  · rw [Bool.eq_false_iff.2 (mt isWebAddress_iff.1 web), if_pos (by decide)]
    exact .inr ⟨_, rfl, .foreignScheme given web⟩

/-- The rule for the waits is kept, or it is told how it is broken. -/
theorem waitFault?_cases (spec : Spec) (recorded : Option String) :
    (spec.waitFault? = none ∧ spec.Keeps recorded .wait) ∨
      ∃ fault, spec.waitFault? = some fault ∧ spec.Tells recorded .wait fault := by
  unfold waitFault?
  by_cases shortTimeout : spec.wait.timeout < SpecFault.leastSeconds
  · exact .inr ⟨_, by simp [shortTimeout], .shortTimeout shortTimeout⟩
  have timeout := Nat.le_of_not_lt shortTimeout
  by_cases shortInterval : spec.wait.interval < SpecFault.leastSeconds
  · exact .inr ⟨_, by simp [shortTimeout, shortInterval], .shortInterval timeout shortInterval⟩
  have least := And.intro timeout (Nat.le_of_not_lt shortInterval)
  by_cases longTimeout : SpecFault.mostSeconds < spec.wait.timeout
  · exact .inr ⟨_, by simp [shortTimeout, shortInterval, longTimeout],
      .longTimeout least longTimeout⟩
  have timeout := Nat.le_of_not_lt longTimeout
  by_cases longInterval : SpecFault.mostSeconds < spec.wait.interval
  · exact .inr ⟨_, by simp [shortTimeout, shortInterval, longTimeout, longInterval],
      .longInterval least timeout longInterval⟩
  have interval := Nat.le_of_not_lt longInterval
  by_cases longDelay : SpecFault.mostSeconds < spec.wait.delay
  · exact .inr ⟨_, by simp [shortTimeout, shortInterval, longTimeout, longInterval, longDelay],
      .longDelay least timeout interval longDelay⟩
  · exact .inl ⟨by simp [shortTimeout, shortInterval, longTimeout, longInterval, longDelay],
      least, timeout, interval, Nat.le_of_not_lt longDelay⟩

/-- The fault that is found of a rule. -/
def ruleFault? (spec : Spec) (recorded : Option String) : Rule → Option SpecFault
  | .preparation => if isBlankText spec.upgradePrepareReadyId then some .noPreparation else none
  | .manager => spec.managerFault?
  | .wait => spec.waitFault?
  | .edgeGroups => idFault? "edgeGroups" (spec.edgeGroups.map EdgeGroup.id)
  | .hostGroups => idFault? "hostGroups" (spec.hostGroups.map HostGroup.id)
  | .immutability => spec.immutabilityFault? recorded

/-- Each rule is kept, or it is told how it is broken. -/
theorem ruleFault?_cases (spec : Spec) (recorded : Option String) (rule : Rule) :
    (spec.ruleFault? recorded rule = none ∧ spec.Keeps recorded rule) ∨
      ∃ fault, spec.ruleFault? recorded rule = some fault ∧ spec.Tells recorded rule fault := by
  cases rule with
  | preparation =>
    by_cases blank : trim spec.upgradePrepareReadyId = ""
    · exact .inr ⟨_, if_pos (isBlankText_iff.2 blank), .noPreparation blank⟩
    · exact .inl ⟨if_neg (mt isBlankText_iff.1 blank), blank⟩
  | manager => exact spec.managerFault?_cases recorded
  | wait => exact spec.waitFault?_cases recorded
  | edgeGroups =>
    cases found : idFault? "edgeGroups" (spec.edgeGroups.map EdgeGroup.id) with
    | none => exact .inl ⟨found, idFault?_eq_none_iff.1 found⟩
    | some fault => exact .inr ⟨fault, found, .edgeGroups (idFault?_eq_some_iff.1 found)⟩
  | hostGroups =>
    cases found : idFault? "hostGroups" (spec.hostGroups.map HostGroup.id) with
    | none => exact .inl ⟨found, idFault?_eq_none_iff.1 found⟩
    | some fault => exact .inr ⟨fault, found, .hostGroups (idFault?_eq_some_iff.1 found)⟩
  | immutability =>
    cases recorded with
    | none => exact .inl ⟨rfl, nofun⟩
    | some previous =>
      by_cases same : previous = spec.upgradePrepareReadyId
      · refine .inl ⟨if_pos same, ?_⟩
        rintro _ ⟨⟩
        exact same
      · exact .inr ⟨_, if_neg same, .changedPreparation rfl same⟩

/-- A rule of which something is told is broken. -/
theorem Tells.not_keeps (tells : spec.Tells recorded rule fault) : ¬ spec.Keeps recorded rule := by
  intro keeps
  cases tells with
  | noPreparation blank => exact keeps blank
  | noUrl blank => exact keeps.1.ne_empty blank
  | foreignScheme given foreign => exact foreign keeps.1
  | noSecretName web blank => exact keeps.2 blank
  | shortTimeout short => exact Nat.not_lt_of_le keeps.1.1 short
  | shortInterval _ short => exact Nat.not_lt_of_le keeps.1.2 short
  | longTimeout _ long => exact Nat.not_lt_of_le keeps.2.1 long
  | longInterval _ _ long => exact Nat.not_lt_of_le keeps.2.2.1 long
  | longDelay _ _ _ long => exact Nat.not_lt_of_le keeps.2.2.2 long
  | edgeGroups first => exact first.not_names keeps
  | hostGroups first => exact first.not_names keeps
  | changedPreparation known changed => exact changed (keeps _ known)

/-- Only one thing is told of a rule. -/
theorem Tells.unique (first : spec.Tells recorded rule fault)
    (second : spec.Tells recorded rule told) :
    fault = told := by
  cases first with
  | noPreparation _ =>
    cases second
    rfl
  | noUrl blank =>
    cases second with
    | noUrl _ => rfl
    | foreignScheme given _ => exact absurd blank given
    | noSecretName web _ => exact absurd blank web.ne_empty
  | foreignScheme given foreign =>
    cases second with
    | noUrl blank => exact absurd blank given
    | foreignScheme _ _ => rfl
    | noSecretName web _ => exact absurd web foreign
  | noSecretName web _ =>
    cases second with
    | noUrl blank => exact absurd blank web.ne_empty
    | foreignScheme _ foreign => exact absurd web foreign
    | noSecretName _ _ => rfl
  | edgeGroups first =>
    cases second with
    | edgeGroups second => exact first.unique second
  | hostGroups first =>
    cases second with
    | hostGroups second => exact first.unique second
  | changedPreparation known _ =>
    cases second with
    | changedPreparation also _ => rw [Option.some.inj (known.symm.trans also)]
  -- Two faults of the waiting times exclude each other by their bounds.
  | _ => cases second <;> first | rfl | omega

/-- No fault is found with a rule exactly if it is kept. -/
theorem ruleFault?_eq_none_iff :
    spec.ruleFault? recorded rule = none ↔ spec.Keeps recorded rule := by
  rcases spec.ruleFault?_cases recorded rule with ⟨unfaulty, keeps⟩ | ⟨fault, found, tells⟩
  · exact iff_of_true unfaulty keeps
  · exact iff_of_false (by simp [found]) tells.not_keeps

/-- The fault that is found with a rule is what is told of it. -/
theorem ruleFault?_eq_some_iff :
    spec.ruleFault? recorded rule = some fault ↔ spec.Tells recorded rule fault := by
  rcases spec.ruleFault?_cases recorded rule with ⟨unfaulty, keeps⟩ | ⟨found, isFound, tells⟩
  · exact iff_of_false (by simp [unfaulty]) fun tells => tells.not_keeps keeps
  · rw [isFound, Option.some.injEq]
    exact ⟨fun same => same ▸ tells, tells.unique⟩

/-- All rules but the last one are about the spec on its own. -/
theorem fault?_eq (spec : Spec) (recorded : Option String) :
    spec.fault? = Rule.inOrder.dropLast.findSome? (spec.ruleFault? recorded) := by
  have own : Rule.inOrder.dropLast = [.preparation, .manager, .wait, .edgeGroups, .hostGroups] :=
    rfl
  unfold fault?
  by_cases blank : isBlankText spec.upgradePrepareReadyId = true
  · simp [own, ruleFault?, blank]
  · simp [own, ruleFault?, blank, List.findSome?]

/-- A spec that is accepted on its own keeps them. -/
theorem keeps_of_fault? (accepted : spec.fault? = none) (recorded : Option String) (rule : Rule)
    (own : rule ≠ .immutability) : spec.Keeps recorded rule := by
  have among : rule ∈ Rule.inOrder.dropLast := by
    cases rule <;> first | decide | exact absurd rfl own
  rw [fault?_eq spec recorded, List.findSome?_eq_none_iff] at accepted
  exact ruleFault?_eq_none_iff.1 (accepted rule among)

end Rules

end Spec

namespace RunObject

variable {run : RunObject} {fault : SpecFault}

/-- The preparation that is recorded of a run. -/
def preparation? (run : RunObject) : Option String :=
  run.status.bind RunStatus.upgradePrepareReadyId

/-- The rules are looked at in their order, up to the first one that is broken. -/
theorem fault?_eq (run : RunObject) :
    run.fault? = Spec.Rule.inOrder.findSome? (run.spec.ruleFault? run.preparation?) := by
  have order : Spec.Rule.inOrder = Spec.Rule.inOrder.dropLast ++ [.immutability] := rfl
  rw [fault?, run.spec.fault?_eq run.preparation?, order, List.findSome?_append,
    List.dropLast_concat]
  cases Spec.Rule.inOrder.dropLast.findSome? (run.spec.ruleFault? run.preparation?) with
  | none => exact (List.findSome?_singleton).symm
  | some fault => rfl

end RunObject

namespace Spec

/-- The run is the one that a spec writes down: the groups with their names and options in their
order, and a component is upgraded in part just if one of its groups is left out or pauses after
each unit. -/
structure Declares (spec : Spec) (run : Run) : Prop where
  edgeGroups :
    run.edge.groups.map (fun group => (group.id, group.enabled, group.pauseAfterEachUnit)) =
    spec.edgeGroups.map fun group => (group.id, group.enabled, group.pauseAfterEachUnit)
  hostGroups : run.host.groups.map (fun group =>
      (group.id, group.enabled, group.parallel, group.pauseAfterEachUnit, group.hostConfig)) =
    spec.hostGroups.map fun group =>
      (group.id, group.enabled, group.parallel, group.pauseAfterEachUnit, some group.config)
  edgePartial : run.isPartial .edge = true ↔
    ∃ group ∈ spec.edgeGroups, group.enabled = false ∨ group.pauseAfterEachUnit = true
  hostPartial : run.isPartial .host = true ↔
    ∃ group ∈ spec.hostGroups, group.enabled = false ∨ group.pauseAfterEachUnit = true
  managementPartial : run.isPartial .management = false

/-- An upgrade declares what its spec does. -/
theorem declares_toRun (spec : Spec) : spec.Declares spec.toRun where
  edgeGroups := by
    rw [toRun, List.map_map]
    rfl
  hostGroups := by
    rw [toRun, List.map_map]
    rfl
  edgePartial := by
    simp [Run.isPartial, Run.plan?, ComponentPlan.isPartial, toRun, DeclaredGroup.isPartial,
      EdgeGroup.declared]
  hostPartial := by
    simp [Run.isPartial, Run.plan?, ComponentPlan.isPartial, toRun, DeclaredGroup.isPartial,
      HostGroup.declared]
  managementPartial := rfl

end Spec

namespace RunObject

/-- A declared run is accepted just if it keeps every rule, and then the run that is driven is the
one that is written down.  Otherwise what is told is told of the first rule, in their order, that
the declared run breaks. -/
theorem fault?_first (run : RunObject) :
    (run.fault? = none ↔ ∀ rule, run.spec.Keeps run.preparation? rule) ∧
    (∀ fault, run.fault? = some fault ↔ ∃ before rule after,
      Spec.Rule.inOrder = before ++ rule :: after ∧
        (∀ earlier ∈ before, run.spec.Keeps run.preparation? earlier) ∧
        ¬ run.spec.Keeps run.preparation? rule ∧ run.spec.Tells run.preparation? rule fault) ∧
    run.spec.Declares run.spec.toRun := by
  refine ⟨?_, fun fault => ?_, run.spec.declares_toRun⟩
  · have complete : ∀ rule, rule ∈ Spec.Rule.inOrder := by
      intro rule
      cases rule <;> decide
    simp only [fault?_eq, List.findSome?_eq_none_iff, Spec.ruleFault?_eq_none_iff, complete,
      forall_const]
  · simp only [fault?_eq, List.findSome?_eq_some_iff, Spec.ruleFault?_eq_none_iff,
      Spec.ruleFault?_eq_some_iff]
    constructor
    · rintro ⟨before, rule, after, split, tells, kept⟩
      exact ⟨before, rule, after, split, kept, tells.not_keeps, tells⟩
    · rintro ⟨before, rule, after, split, kept, -, tells⟩
      exact ⟨before, rule, after, split, tells, kept⟩

end RunObject

end FabricUpgrade
