import FabricUpgrade.Json.Reader
import FabricUpgrade.Proofs.Settling

/-!
# What a value is made of

`Json.depth` is in how many arrays and objects the parts of a value are nested at most, `Json.numbers`
are the numbers in it.  A value is `Sound` if it can be read in full, is not nested too deep and has no
integers but those of 64 bits; what is built of sound values is sound, and a sound value stays so when
it is settled (`Sound.settle`).  What was read is `Scanned`, that is sound but for the parts that cannot
be read in full (`scanned_of_read?`).
-/

namespace FabricUpgrade.Json

mutual

/-- In how many arrays and objects the parts of a value are nested at most. -/
def depth : Json → Nat
  | .array items => depthOfItems items + 1
  | .object members => depthOfMembers members + 1
  | _ => 0

/-- The greatest depth of the items. -/
def depthOfItems : List Json → Nat
  | [] => 0
  | item :: rest => max (depth item) (depthOfItems rest)

/-- The greatest depth of the members. -/
def depthOfMembers : Members → Nat
  | [] => 0
  | (_, value) :: rest => max (depth value) (depthOfMembers rest)

end

mutual

/-- The numbers in a value. -/
def numbers : Json → List Number
  | .number value => [value]
  | .array items => numbersOfItems items
  | .object members => numbersOfMembers members
  | _ => []

/-- The numbers in the items. -/
def numbersOfItems : List Json → List Number
  | [] => []
  | item :: rest => numbers item ++ numbersOfItems rest

/-- The numbers in the members. -/
def numbersOfMembers : Members → List Number
  | [] => []
  | (_, value) :: rest => numbers value ++ numbersOfMembers rest

end

section Parts

variable {items : List Json} {members : Members} {limit : Nat} {number : Number}

/-- Items keep within a depth exactly if each of them does. -/
theorem depthOfItems_le_iff : depthOfItems items ≤ limit ↔ ∀ item ∈ items, item.depth ≤ limit := by
  induction items with
  | nil => simp [depthOfItems]
  | cons item rest inductionHypothesis =>
    simp only [depthOfItems, Nat.max_le, inductionHypothesis, List.forall_mem_cons]

/-- Members keep within a depth exactly if the value of each of them does. -/
theorem depthOfMembers_le_iff :
    depthOfMembers members ≤ limit ↔ ∀ member ∈ members, member.2.depth ≤ limit := by
  induction members with
  | nil => simp [depthOfMembers]
  | cons member rest inductionHypothesis =>
    simp only [depthOfMembers, Nat.max_le, inductionHypothesis, List.forall_mem_cons]

/-- The numbers of items are those of each of them. -/
theorem mem_numbersOfItems : number ∈ numbersOfItems items ↔ ∃ item ∈ items, number ∈ item.numbers := by
  induction items with
  | nil => simp [numbersOfItems]
  | cons item rest inductionHypothesis => simp [numbersOfItems, inductionHypothesis]

/-- The numbers of members are those of their values. -/
theorem mem_numbersOfMembers :
    number ∈ numbersOfMembers members ↔ ∃ member ∈ members, number ∈ member.2.numbers := by
  induction members with
  | nil => simp [numbersOfMembers]
  | cons member rest inductionHypothesis =>
    simp only [numbersOfMembers, List.mem_append, inductionHypothesis, List.mem_cons, exists_eq_or_imp]

end Parts

/-- The integer has 64 bits, with a sign or without one. -/
def IsWord (value : Int) : Prop :=
  -negativeCount ≤ value ∧ value < wordCount

/-- The integers in the value have 64 bits. -/
def InRange (value : Json) : Prop :=
  ∀ integer, .integer integer ∈ value.numbers → IsWord integer

/-- The value is nested in no more arrays and objects than the limit says, and its integers have 64
bits. -/
structure Scanned (limit : Nat) (value : Json) : Prop where
  shallow : value.depth ≤ limit
  inRange : value.InRange

/-- And it can be read in full. -/
structure Sound (limit : Nat) (value : Json) : Prop extends Scanned limit value where
  readable : value.readable = true

namespace Scanned

variable {limit : Nat} {items : List Json} {members : Members}

/-- An array can have been read exactly if its items can, one level less deep. -/
theorem array_iff : Scanned (limit + 1) (.array items) ↔ ∀ item ∈ items, Scanned limit item := by
  constructor
  · intro scanned item there
    exact ⟨depthOfItems_le_iff.1 (Nat.le_of_succ_le_succ scanned.shallow) item there,
      fun integer occurs => scanned.inRange integer (mem_numbersOfItems.2 ⟨item, there, occurs⟩)⟩
  · intro scanned
    refine ⟨Nat.succ_le_succ (depthOfItems_le_iff.2 fun item there => (scanned item there).shallow),
      fun integer occurs => ?_⟩
    obtain ⟨item, there, occurs⟩ := mem_numbersOfItems.1 occurs
    exact (scanned item there).inRange integer occurs

/-- An object can have been read exactly if the values of its members can, one level less deep. -/
theorem object_iff :
    Scanned (limit + 1) (.object members) ↔ ∀ member ∈ members, Scanned limit member.2 := by
  constructor
  · intro scanned member there
    exact ⟨depthOfMembers_le_iff.1 (Nat.le_of_succ_le_succ scanned.shallow) member there,
      fun integer occurs =>
        scanned.inRange integer (mem_numbersOfMembers.2 ⟨member, there, occurs⟩)⟩
  · intro scanned
    refine ⟨Nat.succ_le_succ
      (depthOfMembers_le_iff.2 fun member there => (scanned member there).shallow),
      fun integer occurs => ?_⟩
    obtain ⟨member, there, occurs⟩ := mem_numbersOfMembers.1 occurs
    exact (scanned member there).inRange integer occurs

end Scanned

/-- The values of all members are sound. -/
def Members.Sound (limit : Nat) (members : Members) : Prop :=
  ∀ member ∈ members, Json.Sound limit member.2

namespace Sound

variable {limit : Nat} {value : Json} {items : List Json} {members : Members}

/-- An array is sound exactly if its items are, one level less deep. -/
theorem array_iff : Sound (limit + 1) (.array items) ↔ ∀ item ∈ items, Sound limit item := by
  constructor
  · intro sound item there
    exact ⟨Scanned.array_iff.1 sound.toScanned item there,
      readableItems_iff.1 sound.readable item there⟩
  · intro sound
    exact ⟨Scanned.array_iff.2 fun item there => (sound item there).toScanned,
      readableItems_iff.2 fun item there => (sound item there).readable⟩

/-- An object is sound exactly if its members are, one level less deep. -/
theorem object_iff : Sound (limit + 1) (.object members) ↔ Members.Sound limit members := by
  constructor
  · intro sound member there
    exact ⟨Scanned.object_iff.1 sound.toScanned member there,
      readableMembers_iff.1 sound.readable member there⟩
  · intro sound
    exact ⟨Scanned.object_iff.2 fun member there => (sound member there).toScanned,
      readableMembers_iff.2 fun member there => (sound member there).readable⟩

@[simp]
theorem bool (flag : Bool) : Sound limit (.bool flag) :=
  ⟨⟨Nat.zero_le _, nofun⟩, rfl⟩

@[simp]
theorem string (text : String) : Sound limit (.string text) :=
  ⟨⟨Nat.zero_le _, nofun⟩, rfl⟩

/-- An integer is sound if it fits into a word. -/
theorem int {integer : Int} (fits : IsWord integer) : Sound limit (.int integer) := by
  refine ⟨⟨Nat.zero_le _, fun other occurs => ?_⟩, rfl⟩
  cases List.mem_singleton.1 occurs
  exact fits

/-- What is written of a list is sound if what is written of its items is. -/
theorem array_map {α : Type} {encode : α → Json} {values : List α}
    (sound : ∀ value ∈ values, Sound limit (encode value)) :
    Sound (limit + 1) (.array (values.map encode)) :=
  array_iff.2 (List.forall_mem_map.2 sound)

end Sound

namespace Members.Sound

variable {limit : Nat} {name : String} {value : Json} {members left right : Members}

@[simp]
theorem nil : Members.Sound limit [] :=
  nofun

/-- Members are sound exactly if the first one is and the others are. -/
@[simp]
theorem cons_iff :
    Members.Sound limit ((name, value) :: members) ↔
      Json.Sound limit value ∧ Members.Sound limit members :=
  List.forall_mem_cons

/-- Sound members are sound together. -/
theorem append (first : Members.Sound limit left) (second : Members.Sound limit right) :
    Members.Sound limit (left ++ right) :=
  List.forall_mem_append.2 ⟨first, second⟩

/-- A member that is left out where there is nothing is sound if what it would hold is. -/
theorem memberOfOption {α : Type} {encode : α → Json} {datum : Option α}
    (sound : ∀ value ∈ datum, Json.Sound limit (encode value)) :
    Members.Sound limit (memberOfOption name encode datum) := by
  cases datum with
  | none => exact nil
  | some value => exact cons_iff.2 ⟨sound value rfl, nil⟩

/-- A member that is left out where a list is empty is sound if the items of the list are. -/
theorem memberOfList {α : Type} {encode : α → Json} {values : List α}
    (sound : ∀ value ∈ values, Json.Sound limit (encode value)) :
    Members.Sound (limit + 1) (memberOfList name encode values) := by
  unfold Json.memberOfList
  split
  · exact nil
  · exact cons_iff.2 ⟨.array_map sound, nil⟩

/-- A text that may be missing. -/
theorem text {datum : Option String} : Members.Sound limit (Json.memberOfOption name .string datum) :=
  memberOfOption fun text _ => .string text

end Members.Sound

/-!
## What is carried on
-/

section Settle

/-- A sound value stays sound when it is settled. -/
theorem Sound.settle {value : Json} {limit : Nat} (sound : Sound limit value) :
    Sound limit value.settle := by
  induction value using induction generalizing limit with
  | null | bool _ | number _ | string _ | unreadable => exact sound
  | array items inductionHypothesis =>
    cases limit with
    | zero => exact absurd sound.shallow (Nat.not_succ_le_zero _)
    | succ limit =>
      rw [Json.settle, settleItems_eq_map]
      exact Sound.array_map fun item there =>
        inductionHypothesis item there (Sound.array_iff.1 sound item there)
  | object members inductionHypothesis =>
    cases limit with
    | zero => exact absurd sound.shallow (Nat.not_succ_le_zero _)
    | succ limit =>
      refine Sound.object_iff.2 fun member there => ?_
      obtain ⟨original, found, rfl⟩ := exists_of_mem_settle there
      exact inductionHypothesis original found (Sound.object_iff.1 sound original found)

/-- What is carried along of an object that was scanned is sound. -/
theorem sound_of_carried? {limit : Nat} {value carried : Json} {names : List String}
    (scanned : Scanned (limit + 1) value)
    (carries : (Json.object (value.membersOf.filter fun member => member.1 ∉ names)).carried? =
      some carried) : Members.Sound limit carried.membersOf := by
  have scannedMembers : ∀ member ∈ value.membersOf, Scanned limit member.2 := by
    cases value with
    | object members => exact Scanned.object_iff.1 scanned
    | null | bool _ | number _ | string _ | array _ | unreadable => nofun
  unfold carried? at carries
  split at carries
  next readable =>
    cases carries
    have sound : Sound (limit + 1)
        (Json.object (value.membersOf.filter fun member => member.1 ∉ names)) :=
      ⟨Scanned.object_iff.2 fun member there => scannedMembers member (List.mem_filter.1 there).1,
        readable⟩
    exact Sound.object_iff.1 sound.settle
  next => cases carries

end Settle

/-!
## What was read
-/

section Read

/-- A value without numbers has none that is out of range. -/
theorem inRange_of_numbers_eq_nil {value : Json} (none : value.numbers = []) : value.InRange := by
  intro integer occurs
  rw [none] at occurs
  cases occurs

/-- An array is in range exactly if its items are. -/
theorem inRange_array_iff {items : List Json} :
    (array items).InRange ↔ ∀ item ∈ items, item.InRange := by
  simp only [InRange, numbers, mem_numbersOfItems]
  grind

/-- An object is in range exactly if the values of its members are. -/
theorem inRange_object_iff {members : Members} :
    (object members).InRange ↔ ∀ member ∈ members, member.2.InRange := by
  simp only [InRange, numbers, mem_numbersOfMembers]
  grind

/-- A numeral is read as a number in range. -/
theorem inRange_ofNumeral (negative : Bool) (whole fraction : List Char) (exponent : Int) :
    (ofNumeral negative whole fraction exponent).InRange := by
  unfold ofNumeral Number.ofFloat
  intro integer occurs
  simp only at occurs
  split at occurs
  · split at occurs <;> simp [numbers] at occurs
  · simp [numbers] at occurs

/-- A whole numeral is read as a number in range. -/
theorem inRange_ofWholeNumeral (negative : Bool) (digits : List Char) :
    (ofWholeNumeral negative digits).InRange := by
  have single {value : Int} (fits : IsWord value) : (int value).InRange := fun other occurs => by
    cases List.mem_singleton.1 occurs
    exact fits
  unfold ofWholeNumeral
  simp only
  split
  · split
    · exact inRange_ofNumeral _ _ _ _
    next within =>
      refine single ⟨?_, ?_⟩ <;> simp only [negativeCount, wordCount] at * <;> omega
  · split
    next within =>
      refine single ⟨?_, ?_⟩ <;> simp only [negativeCount, wordCount] at * <;> omega
    · exact inRange_ofNumeral _ _ _ _

/-- A magnitude that is read is in range, signed or not. -/
theorem inRange_of_readMagnitude {negative : Bool} {text rest : List Char} {value : Json}
    (read : readMagnitude negative text = some (value, rest)) : value.InRange := by
  unfold readMagnitude at read
  simp only [Option.bind_eq_bind, Option.ite_none_left_eq_some] at read
  obtain ⟨-, -, read⟩ := read
  obtain ⟨fraction, -, read⟩ := Option.bind_eq_some_iff.1 read
  obtain ⟨exponent, -, read⟩ := Option.bind_eq_some_iff.1 read
  split at read
  · cases read
    exact inRange_ofWholeNumeral _ _
  · cases read
    exact inRange_ofNumeral _ _ _ _

/-- An object that is made of members in range is in range. -/
theorem inRange_objectOf {members : List (Option (List Char) × Json)}
    (inRange : ∀ member ∈ members, member.2.InRange) : (objectOf members).InRange := by
  unfold objectOf
  split
  next named same =>
    refine inRange_object_iff.2 (forall_mem_of_mapM (fun member there named named' => ?_) same)
    obtain ⟨name, -, rfl⟩ := Option.map_eq_some_iff.1 named'
    exact inRange member there
  next => exact inRange_of_numbers_eq_nil rfl

/-- A word that stands for a value without numbers is in range. -/
theorem inRange_of_readWord {word text rest : List Char} {value read : Json}
    (plain : value.numbers = []) (reads : readWord word value text = some (read, rest)) :
    read.InRange := by
  obtain ⟨-, same⟩ := Option.ite_none_right_eq_some.1 reads
  cases same
  exact inRange_of_numbers_eq_nil plain

/-- Whatever is read with so much fuel, its integers have 64 bits. -/
structure ReadInRange (fuel : Nat) : Prop where
  value : ∀ text value rest, readValue fuel text = some (value, rest) → value.InRange
  items : ∀ text items rest, readItems fuel text = some (items, rest) → ∀ item ∈ items, item.InRange
  members : ∀ text members rest, readMembers fuel text = some (members, rest) →
    ∀ member ∈ members, member.2.InRange

variable {fuel : Nat} {text rest : List Char}

/-- What is read with one more unit of fuel is in range if what is read with less is. -/
theorem ReadInRange.value_succ {value : Json} (below : ReadInRange fuel)
    (read : readValue (fuel + 1) text = some (value, rest)) : value.InRange := by
  rw [readValue] at read
  split at read
  · exact inRange_of_readWord rfl read
  · exact inRange_of_readWord rfl read
  · exact inRange_of_readWord rfl read
  · obtain ⟨⟨characters, _⟩, -, same⟩ := Option.map_eq_some_iff.1 read
    cases same
    cases characters <;> exact inRange_of_numbers_eq_nil rfl
  · exact inRange_of_readMagnitude read
  · split at read
    · cases read
      exact inRange_of_numbers_eq_nil rfl
    · obtain ⟨⟨items, _⟩, readItems, same⟩ := Option.map_eq_some_iff.1 read
      cases same
      exact inRange_array_iff.2 (below.items _ _ _ readItems)
  · split at read
    · cases read
      exact inRange_of_numbers_eq_nil rfl
    · obtain ⟨⟨members, _⟩, readMembers, same⟩ := Option.map_eq_some_iff.1 read
      cases same
      exact inRange_objectOf (below.members _ _ _ readMembers)
  · exact inRange_of_readMagnitude read

/-- Items that are read with one more unit of fuel are in range if what is read with less is. -/
theorem ReadInRange.items_succ {items : List Json} (below : ReadInRange fuel)
    (read : readItems (fuel + 1) text = some (items, rest)) : ∀ item ∈ items, item.InRange := by
  rw [readItems] at read
  split at read
  · cases read
  next item _ readFirst =>
    have first := below.value _ _ _ readFirst
    split at read
    · obtain ⟨⟨others, _⟩, readOthers, same⟩ := Option.map_eq_some_iff.1 read
      cases same
      exact List.forall_mem_cons.2 ⟨first, below.items _ _ _ readOthers⟩
    · cases read
      exact List.forall_mem_singleton.2 first
    · cases read

/-- Members that are read with one more unit of fuel are in range if what is read with less is. -/
theorem ReadInRange.members_succ {members : List (Option (List Char) × Json)}
    (below : ReadInRange fuel) (read : readMembers (fuel + 1) text = some (members, rest)) :
    ∀ member ∈ members, member.2.InRange := by
  rw [readMembers] at read
  split at read
  · split at read
    · cases read
    · split at read
      · split at read
        · cases read
        next value _ readFirst =>
          have first := below.value _ _ _ readFirst
          split at read
          · obtain ⟨⟨others, _⟩, readOthers, same⟩ := Option.map_eq_some_iff.1 read
            cases same
            exact List.forall_mem_cons.2 ⟨first, below.members _ _ _ readOthers⟩
          · cases read
            exact List.forall_mem_singleton.2 first
          · cases read
      · cases read
  · cases read

/-- Whatever the fuel, only values in range are read. -/
theorem readInRange (fuel : Nat) : ReadInRange fuel := by
  induction fuel with
  | zero => exact ⟨nofun, nofun, nofun⟩
  | succ fuel below =>
    exact ⟨fun _ _ _ => below.value_succ, fun _ _ _ => below.items_succ,
      fun _ _ _ => below.members_succ⟩

/-- Limiting the depth of items limits each of them. -/
theorem limitItems_eq_map (limit : Nat) (items : List Json) :
    limitItems limit items = items.map (limitDepth limit) := by
  induction items with
  | nil => rw [limitItems, List.map_nil]
  | cons item rest inductionHypothesis => rw [limitItems, inductionHypothesis, List.map_cons]

/-- Limiting the depth of members limits the value of each of them. -/
theorem limitMembers_eq_map (limit : Nat) (members : Members) :
    limitMembers limit members = members.map fun member => (member.1, limitDepth limit member.2) := by
  induction members with
  | nil => rw [limitMembers, List.map_nil]
  | cons member rest inductionHypothesis =>
    obtain ⟨name, value⟩ := member
    rw [limitMembers, inductionHypothesis, List.map_cons]

/-- A value whose depth is limited keeps to the limit, and its integers were there before. -/
theorem scanned_limitDepth {value : Json} (limit : Nat) (inRange : value.InRange) :
    Scanned limit (limitDepth limit value) := by
  induction value using induction generalizing limit with
  | null | bool _ | number _ | string _ | unreadable =>
    cases limit <;> exact ⟨Nat.zero_le _, inRange⟩
  | array items inductionHypothesis =>
    cases limit with
    | zero => exact ⟨Nat.zero_le _, inRange_of_numbers_eq_nil rfl⟩
    | succ limit =>
      rw [limitDepth, limitItems_eq_map]
      exact Scanned.array_iff.2 (List.forall_mem_map.2 fun item there =>
        inductionHypothesis item there limit (inRange_array_iff.1 inRange item there))
  | object members inductionHypothesis =>
    cases limit with
    | zero => exact ⟨Nat.zero_le _, inRange_of_numbers_eq_nil rfl⟩
    | succ limit =>
      rw [limitDepth, limitMembers_eq_map]
      exact Scanned.object_iff.2 (List.forall_mem_map.2 fun member there =>
        inductionHypothesis member there limit (inRange_object_iff.1 inRange member there))

/-- Every value that a text is read as keeps within the depth and the range of what can be read. -/
theorem scanned_of_read? {text : String} {value : Json} (read : read? text = some value) :
    Scanned depthLimit value := by
  unfold read? at read
  simp only at read
  split at read
  · cases read
  next value rest reads =>
    obtain ⟨-, same⟩ := Option.ite_none_right_eq_some.1 read
    cases same
    exact scanned_limitDepth _ ((readInRange _).value _ _ _ reads)

/-- A value that keeps to the limit stays as it is. -/
theorem limitDepth_of_depth_le {value : Json} {limit : Nat} (shallow : value.depth ≤ limit) :
    limitDepth limit value = value := by
  induction value using induction generalizing limit with
  | null | bool _ | number _ | string _ | unreadable => cases limit <;> rfl
  | array items inductionHypothesis =>
    cases limit with
    | zero => exact absurd shallow (Nat.not_succ_le_zero _)
    | succ limit =>
      have within := depthOfItems_le_iff.1 (Nat.le_of_succ_le_succ shallow)
      rw [limitDepth, limitItems_eq_map, List.map_congr_left fun item there =>
        inductionHypothesis item there (within item there), List.map_id']
  | object members inductionHypothesis =>
    cases limit with
    | zero => exact absurd shallow (Nat.not_succ_le_zero _)
    | succ limit =>
      have within := depthOfMembers_le_iff.1 (Nat.le_of_succ_le_succ shallow)
      have same : ∀ member ∈ members, (member.1, limitDepth limit member.2) = member :=
        fun member there => by rw [inductionHypothesis member there (within member there)]
      rw [limitDepth, limitMembers_eq_map, List.map_congr_left same, List.map_id']

end Read

end FabricUpgrade.Json
