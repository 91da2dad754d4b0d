import FabricUpgrade.Json.MergePatch
import FabricUpgrade.Json.Record

/-!
# What a merge patch changes

A name that a merge patch gives a plain value, one that is neither `null` nor an object, holds that
value afterwards, and all other names hold what they held before.  A patch never makes a name stand
twice that stood once.
-/

namespace FabricUpgrade.Json

/-- The value takes the place of another one as it stands. -/
def isPlain : Json → Bool
  | .null | .object _ => false
  | _ => true

theorem isPlain_string (text : String) : (string text).isPlain = true :=
  rfl

theorem isPlain_int (value : Int) : (int value).isPlain = true :=
  rfl

namespace Members

variable {members patch target : Members} {name other : String} {value : Json}

/-- A member in front hides those of its name. -/
@[simp]
theorem lookup_cons {Value : Type} {value : Value} {members : List (String × Value)} :
    List.lookup other ((name, value) :: members) =
      if other = name then some value else members.lookup other := by
  by_cases same : other = name
  · simp [same]
  · rw [List.lookup_cons, beq_false_of_ne same, if_neg same]

/-- A member that is put is found under its name, and the others as before. -/
theorem lookup_put : List.lookup other (members.put name value) =
    if other = name then some value else members.lookup other := by
  induction members with
  | nil => simp only [put, lookup_cons]
  | cons member rest inductionHypothesis =>
    obtain ⟨first, old⟩ := member
    by_cases here : first = name
    · simp only [put, here, if_true, lookup_cons]
      by_cases same : other = name <;> simp [same]
    · simp only [put, here, if_false, lookup_cons, inductionHypothesis]
      by_cases same : other = name <;> simp [same, Ne.symm here]

/-- A member in front counts for its own name. -/
theorem count_cons {member : String × Json} : Members.count name (member :: members) =
    members.count name + if member.1 = name then 1 else 0 := by
  simp [Members.count, List.countP_cons]

/-- Only a name that was not there comes to stand once more. -/
theorem count_put : Members.count other (members.put name value) =
    if other = name then max 1 (members.count other) else members.count other := by
  induction members with
  | nil => by_cases same : other = name <;> simp [put, Members.count, same, eq_comm]
  | cons member rest inductionHypothesis =>
    obtain ⟨first, old⟩ := member
    by_cases here : first = name
    · subst here
      by_cases same : first = other
      · simp only [put, if_true, count_cons, same]
        omega
      · simp [put, count_cons, same, Ne.symm same]
    · simp only [put, here, if_false, count_cons, inductionHypothesis]
      by_cases same : other = name
      · simp [same, here]
      · simp [same]

/-- No name stands more often when one is erased. -/
theorem count_erase_le : Members.count other (members.erase name) ≤ members.count other :=
  List.filter_sublist.countP_le

end Members

section Patches

variable {patch target : Members} {name other : String} {value : Json}

/-- A plain member of a patch is put. -/
theorem mergeMembers_cons_of_isPlain (plain : value.isPlain = true) :
    mergeMembers ((name, value) :: patch) target = mergeMembers patch (target.put name value) := by
  cases value with
  | null | object _ => cases plain
  | bool _ | number _ | string _ | array _ | unreadable => simp [mergeMembers, mergePatch]

/-- A patch in two parts is merged part by part. -/
theorem mergeMembers_append (before after : Members) :
    mergeMembers (before ++ after) target = mergeMembers after (mergeMembers before target) := by
  induction before generalizing target with
  | nil => rfl
  | cons member rest inductionHypothesis =>
    obtain ⟨name, value⟩ := member
    cases value <;> simp [mergeMembers, inductionHypothesis]

/-- A name that stands once at most does so after a patch. -/
theorem count_mergeMembers_le (once : target.count name ≤ 1) :
    (mergeMembers patch target).count name ≤ 1 := by
  induction patch generalizing target with
  | nil => exact once
  | cons member rest inductionHypothesis =>
    obtain ⟨other, value⟩ := member
    have put (value : Json) : (target.put other value).count name ≤ 1 := by
      rw [Members.count_put]
      split <;> omega
    cases value with
    | null => exact inductionHypothesis (Nat.le_trans Members.count_erase_le once)
    | bool _ | number _ | string _ | array _ | object _ | unreadable =>
      exact inductionHypothesis (put _)

/-- An optional member is written over if there is a datum, and kept if there is none. -/
theorem lookup_mergeMembers_memberOfOption {α : Type} {encode : α → Json} {datum : Option α}
    (plain : ∀ datum, (encode datum).isPlain = true) :
    (mergeMembers (memberOfOption name encode datum) target).lookup other =
      if other = name then (datum.map encode).or (target.lookup other)
      else target.lookup other := by
  cases datum with
  | none => simp [memberOfOption, mergeMembers]
  | some datum =>
    rw [memberOfOption, mergeMembers_cons_of_isPlain (plain datum), mergeMembers,
      Members.lookup_put]
    rfl

/-- A list as a datum that is left out if nothing is in it. -/
def listed? {α : Type} (values : List α) : Option (List α) :=
  if values.isEmpty then none else some values

/-- A member for a list is the optional member of the list where it has items. -/
theorem memberOfList_eq {α : Type} {encode : α → Json} {values : List α} :
    memberOfList name encode values =
      memberOfOption name (fun values => .array (values.map encode)) (listed? values) := by
  cases values <;> rfl

/-- Under the name of a merged list stands the list, if it has items, or else what stood there. -/
theorem lookup_mergeMembers_memberOfList {α : Type} {encode : α → Json} {values : List α} :
    (mergeMembers (memberOfList name encode values) target).lookup other =
      if other = name then
        ((listed? values).map fun values => .array (values.map encode)).or (target.lookup other)
      else target.lookup other := by
  rw [memberOfList_eq, lookup_mergeMembers_memberOfOption fun _ => rfl]

end Patches

/-- A record in an object is what its members say, if they say it once. -/
theorem record?_object_eq_some_iff {names : List String} {members : Members} {record : Record} :
    record? names (.object members) = some record ↔
      (∀ name ∈ names, members.count name ≤ 1) ∧
        record = ⟨fun name => members.lookup name, false⟩ := by
  rw [eq_comm (a := record)]
  simp [record?, objectRecord?]

/-- A patched record can still be opened. -/
theorem record?_mergeMembers {names : List String} {patch target : Members} {record : Record}
    (opened : record? names (.object target) = some record) :
    record? names (.object (mergeMembers patch target)) =
      some ⟨fun name => (mergeMembers patch target).lookup name, false⟩ := by
  rw [record?_object_eq_some_iff] at opened ⊢
  exact ⟨fun name known => count_mergeMembers_le (opened.1 name known), rfl⟩

end FabricUpgrade.Json
