import FabricUpgrade.Proofs.Codec

/-!
# What is carried along

A record whose format is known in part keeps the other members of the object that it is read from, and
writes them behind its own.  They are carried settled: as a map, which has each name once, with the last
value of it (`get?_settle`), in the order of the names, and so all the way down.  Facts about values of
any depth go by `Json.induction`.  A value that is settled stays as it is (`settle_settle`), and to
settle an object is the same before and after some names are left out (`settle_filter`).  So what was
carried along once is carried along for good (`Leftover.carried?_append`).
-/

namespace FabricUpgrade.Json

variable {names : List String} {name : String} {members other : Members} {items : List Json}

/-- A property holds of all values if what they are made of passes it on. -/
@[elab_as_elim]
theorem induction {motive : Json → Prop} (null : motive null) (bool : ∀ flag, motive (bool flag))
    (number : ∀ value, motive (number value)) (string : ∀ text, motive (string text))
    (array : ∀ items, (∀ item ∈ items, motive item) → motive (array items))
    (object : ∀ members, (∀ member ∈ members, motive member.2) → motive (object members))
    (unreadable : motive unreadable) (value : Json) : motive value :=
  @Json.rec motive (fun items => ∀ item ∈ items, motive item)
    (fun members => ∀ member ∈ members, motive member.2) (fun member => motive member.2)
    null bool number string array object unreadable nofun
    (fun _ _ first others => List.forall_mem_cons.2 ⟨first, others⟩) nofun
    (fun _ _ first others => List.forall_mem_cons.2 ⟨first, others⟩) (fun _ _ held => held) value

/-- The names that members have, in their order. -/
def namesOf (members : Members) : List String :=
  members.map Prod.fst

/-- Settling items settles each of them. -/
theorem settleItems_eq_map (items : List Json) : settleItems items = items.map settle := by
  induction items with
  | nil => rfl
  | cons item rest inductionHypothesis => rw [settleItems, inductionHypothesis, List.map_cons]

/-- Settling members settles the value of each of them. -/
theorem settleMembers_eq_map (members : Members) :
    settleMembers members = members.map fun member => (member.1, member.2.settle) := by
  induction members with
  | nil => rfl
  | cons member rest inductionHypothesis =>
    rw [settleMembers, inductionHypothesis, List.map_cons]

/-- A settled object has its members in the order of their names. -/
theorem ordered_settle (members : Members) : SortedMap.Ordered (object members).settle.membersOf :=
  SortedMap.ordered_ofEntries _

example : (object [("_revision", int 7), ("Z", .null), ("A", .null), ("_revision", int 8)]).settle =
    object [("A", .null), ("Z", .null), ("_revision", int 8)] :=
  rfl

/-- A settled member is one that was there, settled. -/
theorem exists_of_mem_settle {members : Members} {member : String × Json}
    (there : member ∈ (object members).settle.membersOf) :
    ∃ original ∈ members, member = (original.1, original.2.settle) := by
  have settled := SortedMap.mem_of_mem_ofEntries there
  rw [settleMembers_eq_map] at settled
  obtain ⟨original, found, rfl⟩ := List.mem_map.1 settled
  exact ⟨original, found, rfl⟩

/-- What is settled stays as it is. -/
theorem settle_settle (value : Json) : value.settle.settle = value.settle := by
  induction value using induction with
  | null | bool _ | number _ | string _ | unreadable => rfl
  | array items inductionHypothesis =>
    simp only [settle, settleItems_eq_map, List.map_map]
    exact congrArg array (List.map_congr_left inductionHypothesis)
  | object members inductionHypothesis =>
    have each : ∀ member ∈ SortedMap.ofEntries (settleMembers members),
        (member.1, member.2.settle) = member := by
      intro member there
      obtain ⟨original, found, rfl⟩ := exists_of_mem_settle there
      exact congrArg (Prod.mk original.1) (inductionHypothesis original found)
    rw [settle, settle, settleMembers_eq_map (SortedMap.ofEntries _), List.map_congr_left each,
      List.map_id', SortedMap.ofEntries_of_ordered (SortedMap.ordered_ofEntries _)]

/-- Names can be left out before or after an object is settled. -/
theorem settle_filter (keep : String → Bool) (members : Members) :
    (object (members.filter fun member => keep member.1)).settle =
      object ((object members).settle.membersOf.filter fun member => keep member.1) := by
  have settled : settleMembers (members.filter fun member => keep member.1) =
      (settleMembers members).filter fun member => keep member.1 := by
    rw [settleMembers_eq_map, settleMembers_eq_map, List.filter_map]
    rfl
  rw [settle, settled, SortedMap.ofEntries_filter]
  rfl

/-- Items can be read back exactly if each of them can. -/
theorem readableItems_iff : readableItems items = true ↔ ∀ item ∈ items, item.readable = true := by
  induction items with
  | nil => simp [readableItems]
  | cons item rest inductionHypothesis => simp [readableItems, inductionHypothesis]

/-- Members can be read back exactly if the value of each of them can. -/
theorem readableMembers_iff :
    readableMembers members = true ↔ ∀ member ∈ members, member.2.readable = true := by
  induction members with
  | nil => simp [readableMembers]
  | cons member rest inductionHypothesis =>
    simp only [readableMembers, Bool.and_eq_true, inductionHypothesis, List.forall_mem_cons]

/-- What can be read in full can be read in full when it is settled. -/
theorem readable_settle {value : Json} (readable : value.readable = true) :
    value.settle.readable = true := by
  induction value using induction with
  | null | bool _ | number _ | string _ | unreadable => exact readable
  | array items inductionHypothesis =>
    rw [settle, settleItems_eq_map]
    refine readableItems_iff.2 (List.forall_mem_map.2 fun item there => ?_)
    exact inductionHypothesis item there (readableItems_iff.1 readable item there)
  | object members inductionHypothesis =>
    refine readableMembers_iff.2 fun member there => ?_
    obtain ⟨original, found, rfl⟩ := exists_of_mem_settle there
    exact inductionHypothesis original found (readableMembers_iff.1 readable original found)

/-- Members that are carried along beside those of the given names. -/
structure Leftover (names : List String) (other : Members) : Prop where
  apart : ∀ name ∈ namesOf other, name ∉ names
  settled : (object other).settle = object other
  readable : (object other).readable = true

/-- What is carried along of an object is what it holds beside the names, settled. -/
theorem carried?_filter_eq_some_iff {carried : Json} :
    (object (members.filter fun member => member.1 ∉ names)).carried? = some carried ↔
      (object (members.filter fun member => member.1 ∉ names)).readable = true ∧
        carried =
          object ((object members).settle.membersOf.filter fun member => member.1 ∉ names) := by
  have settled := settle_filter (fun name => decide (name ∉ names)) members
  unfold carried?
  by_cases readable : (object (members.filter fun member => member.1 ∉ names)).readable = true
  · rw [if_pos readable, Option.some.injEq, settled, eq_comm]
    exact ⟨fun same => ⟨readable, same⟩, fun both => both.2⟩
  · rw [if_neg readable]
    exact ⟨nofun, fun both => absurd both.1 readable⟩

/-- What is carried along is left over beside the names. -/
theorem leftover_of_carried? {carried : Json}
    (carries : (object (members.filter fun member => member.1 ∉ names)).carried? = some carried) :
    Leftover names carried.membersOf := by
  obtain ⟨readable, rfl⟩ := carried?_filter_eq_some_iff.1 carries
  have settled := settle_filter (fun name => decide (name ∉ names)) members
  refine ⟨?_, ?_, ?_⟩
  · intro name there
    obtain ⟨member, kept, rfl⟩ := List.mem_map.1 there
    exact of_decide_eq_true (List.mem_filter.1 kept).2
  · rw [membersOf, ← settled, settle_settle]
  · rw [membersOf, ← settled]
    exact readable_settle readable

namespace Leftover

/-- Nothing known is left over. -/
theorem lookup_eq_none (leftover : Leftover names other) (known : name ∈ names) :
    other.lookup name = none := by
  rw [List.lookup_eq_none_iff]
  intro member there
  have differs : name ≠ member.1 := fun same =>
    leftover.apart member.1 (List.mem_map_of_mem there) (same ▸ known)
  simpa using differs

/-- No known name is left over. -/
theorem count_eq_zero (leftover : Leftover names other) (known : name ∈ names) :
    other.count name = 0 := by
  rw [Members.count, List.countP_eq_zero]
  intro member there
  have differs : member.1 ≠ name := fun same =>
    leftover.apart member.1 (List.mem_map_of_mem there) (same ▸ known)
  simpa using differs

/-- What is left over is in the order of its names. -/
theorem ordered (leftover : Leftover names other) : SortedMap.Ordered other :=
  object.inj leftover.settled ▸ ordered_settle other

/-- Behind members of the names, what is left over is what stands beside the names. -/
theorem filter_append (leftover : Leftover names other)
    (known : ∀ name ∈ namesOf members, name ∈ names) :
    (members ++ other).filter (fun member => member.1 ∉ names) = other := by
  have none : members.filter (fun member => member.1 ∉ names) = [] := by
    rw [List.filter_eq_nil_iff]
    intro member there
    simpa using known member.1 (List.mem_map_of_mem there)
  have all : other.filter (fun member => member.1 ∉ names) = other := by
    rw [List.filter_eq_self]
    intro member there
    simpa using leftover.apart member.1 (List.mem_map_of_mem there)
  rw [List.filter_append, none, all, List.nil_append]

/-- And it is carried along as it is. -/
theorem carried?_append (leftover : Leftover names other)
    (known : ∀ name ∈ namesOf members, name ∈ names) :
    (object ((members ++ other).filter fun member => member.1 ∉ names)).carried? =
      some (object other) := by
  rw [leftover.filter_append known, carried?, if_pos leftover.readable, leftover.settled]

end Leftover

section Lookup

variable {α : Type} {encode : α → Json}

/-- An optional member is found under its name only, and there if it has a datum. -/
theorem lookup_memberOfOption {other : String} {datum : Option α} :
    (memberOfOption name encode datum).lookup other =
      if other = name then datum.map encode else none := by
  cases datum with
  | none => simp [memberOfOption]
  | some datum => simp [memberOfOption]

/-- A member for a list is found under its name only, and there if it has items. -/
theorem lookup_memberOfList {other : String} {values : List α} :
    (memberOfList name encode values).lookup other =
      if other = name then
        (listed? values).map fun values => .array (values.map encode)
      else none := by
  rw [memberOfList_eq, lookup_memberOfOption]

end Lookup

end FabricUpgrade.Json
