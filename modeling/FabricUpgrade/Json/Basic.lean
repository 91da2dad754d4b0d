import FabricUpgrade.SortedMap

/-!
# JSON values

A JSON value as it stands in a text: the members of an object keep their order and may repeat a
name.  `Json.settle` is the value as it is carried from one text to another: an object is held as a
map there, in the order of its names, and of a repeated name only the last value is kept.

A text may hold pieces that can be skipped but not read: a number outside every range, a string
with half of a surrogate pair, nesting beyond the limit.  They are `Json.unreadable`, so that what
is ignored can hold them and what is read cannot.
-/

namespace FabricUpgrade

/-- A JSON number: an integer of the signed or unsigned 64-bit range, or any other number as a
sign, its significant digits and a power of ten. -/
inductive Json.Number where
  | integer (value : Int)
  | decimal (negative : Bool) (digits : Nat) (exponent : Int)
deriving DecidableEq, Repr, Inhabited

/-- A JSON value, with the members of an object in the order of the text. -/
inductive Json where
  | null
  | bool (value : Bool)
  | number (value : Json.Number)
  | string (value : String)
  | array (items : List Json)
  | object (members : List (String × Json))
  | unreadable
deriving Repr, Inhabited

namespace Json

/-- The members of an object, in order. -/
abbrev Members := List (String × Json)

/-- How many values a 64-bit word has. -/
def wordCount : Nat :=
  0x10000000000000000

/-- How many values of a signed 64-bit word are negative. -/
def negativeCount : Nat :=
  0x8000000000000000

/-- An integer as a JSON number. -/
def int (value : Int) : Json :=
  .number (.integer value)

/-- A natural number as a JSON number. -/
def nat (value : Nat) : Json :=
  int value

/-- A list of strings as a JSON array. -/
def strings (values : List String) : Json :=
  .array (values.map .string)

instance : Coe String Json where
  coe := .string

instance : Coe Bool Json where
  coe := .bool

/-- The value kept for an optional datum: `null` when there is none. -/
def ofOption {α : Type} (encode : α → Json) : Option α → Json
  | none => .null
  | some value => encode value

/-- The member of an optional datum: none at all when there is no value. -/
def memberOfOption {α : Type} (name : String) (encode : α → Json) (value : Option α) : Members :=
  match value with
  | none => []
  | some value => [(name, encode value)]

/-- The member of a list: none at all when the list is empty. -/
def memberOfList {α : Type} (name : String) (encode : α → Json) (values : List α) : Members :=
  if values.isEmpty then [] else [(name, .array (values.map encode))]

/-- Gives a name its value: in the place of the first member of that name, else at the end. -/
def Members.put (members : Members) (name : String) (value : Json) : Members :=
  match members with
  | [] => [(name, value)]
  | (other, old) :: rest =>
    if other = name then (name, value) :: rest else (other, old) :: Members.put rest name value

/-- Takes every member of a name out. -/
def Members.erase (members : Members) (name : String) : Members :=
  members.filter fun member => member.1 ≠ name

/-- The member of that name in an object. -/
def get? (name : String) : Json → Option Json
  | .object members => members.lookup name
  | _ => none

/-- The members of an object; any other value has none. -/
def membersOf : Json → Members
  | .object members => members
  | _ => []

mutual
/-- The value as it is carried on, with every object in it as a map. -/
def settle : Json → Json
  | .array items => .array (settleItems items)
  | .object members => .object (SortedMap.ofEntries (settleMembers members))
  | value => value

/-- Settles every item. -/
def settleItems : List Json → List Json
  | [] => []
  | item :: rest => settle item :: settleItems rest

/-- Settles the value of every member. -/
def settleMembers : Members → Members
  | [] => []
  | (name, value) :: rest => (name, settle value) :: settleMembers rest
end

mutual
/-- Whether the value can be read in full. -/
def readable : Json → Bool
  | .unreadable => false
  | .array items => readableItems items
  | .object members => readableMembers members
  | _ => true

/-- Whether every item can be read. -/
def readableItems : List Json → Bool
  | [] => true
  | item :: rest => readable item && readableItems rest

/-- Whether every member can be read. -/
def readableMembers : Members → Bool
  | [] => true
  | (_, value) :: rest => readable value && readableMembers rest
end

/-- The value to carry on, if it can be read in full. -/
def carried? (value : Json) : Option Json :=
  if value.readable then some value.settle else none

end Json

end FabricUpgrade
