import FabricUpgrade.Json.Basic

/-!
# Reading records out of JSON

A record is written as an object with a member for each field, or as an array of its fields in the
order of their declaration.  In an object no known name may stand twice and unknown members are
passed over; an array may stop before fields that have a default and may not be longer than the
record.  `Json.record?` opens both forms, the functions on `Record` fetch the fields by their rule.
-/

namespace FabricUpgrade.Json

/-- What a record holds under each name, and whether it was given by position. -/
structure Record where
  field : String → Option Json
  positional : Bool

/-- How many members of an object have the name. -/
def Members.count (name : String) (members : Members) : Nat :=
  members.countP fun member => member.1 = name

/-- Opens an object that gives no known name twice. -/
def objectRecord? (names : List String) : Json → Option Record
  | .object members =>
    if names.all fun name => Members.count name members ≤ 1 then
      some ⟨fun name => members.lookup name, false⟩
    else none
  | _ => none

/-- Opens a record with the given field names in either form. -/
def record? (names : List String) (value : Json) : Option Record :=
  match value with
  | .array items =>
    if items.length ≤ names.length then
      some ⟨fun name => (names.zip items).lookup name, true⟩
    else none
  | value => objectRecord? names value

namespace Record

variable {α : Type}

/-- A field that has to be there. -/
def required (record : Record) (name : String) (decode : Json → Option α) : Option α :=
  (record.field name).bind decode

/-- A field with a default for the record that leaves it out. -/
def withDefault (record : Record) (name : String) (default : α) (decode : Json → Option α) :
    Option α :=
  match record.field name with
  | none => some default
  | some value => decode value

/-- An optional field that any record may leave out; `null` is no value. -/
def optional (record : Record) (name : String) (decode : Json → Option α) : Option (Option α) :=
  match record.field name with
  | none => some none
  | some .null => some none
  | some value => (decode value).map some

/-- An optional field that only an object may leave out. -/
def nullable (record : Record) (name : String) (decode : Json → Option α) : Option (Option α) :=
  if record.positional ∧ (record.field name).isNone then none else record.optional name decode

end Record

/-- Reads a truth value. -/
def bool? : Json → Option Bool
  | .bool value => some value
  | _ => none

/-- Reads a string. -/
def string? : Json → Option String
  | .string value => some value
  | _ => none

/-- Reads an integer of a range, its ends included. -/
def intWithin? (least greatest : Int) : Json → Option Int
  | .number (.integer value) => if least ≤ value ∧ value ≤ greatest then some value else none
  | _ => none

/-- Reads a natural number below the bound. -/
def natBelow? (bound : Nat) (value : Json) : Option Nat :=
  (intWithin? 0 (bound - 1) value).map Int.toNat

/-- Reads an unsigned 64-bit integer. -/
def word64? : Json → Option Nat :=
  natBelow? wordCount

/-- Reads a signed 64-bit integer. -/
def int64? : Json → Option Int :=
  intWithin? (-negativeCount) (negativeCount - 1)

/-- Reads any number as a floating point number. -/
def float? : Json → Option Float
  | .number (.integer value) => some (Float.ofInt value)
  | .number (.decimal negative digits exponent) =>
    let magnitude := Float.ofScientific digits (exponent < 0) exponent.natAbs
    some (if negative then -magnitude else magnitude)
  | _ => none

/-- Reads an array, item by item. -/
def list? {α : Type} (decode : Json → Option α) : Json → Option (List α)
  | .array items => items.mapM decode
  | _ => none

/-- Reads the value of every member of an object. -/
def entries? {α : Type} (decode : Json → Option α) : Json → Option (List (String × α))
  | .object members =>
    members.mapM fun member => (decode member.2).map fun value => (member.1, value)
  | _ => none

/-- Reads one of a few named cases: the name alone, or an object that gives it `null`. -/
def case? {α : Type} (ofName? : String → Option α) : Json → Option α
  | .string name => ofName? name
  | .object [(name, .null)] => ofName? name
  | _ => none

end FabricUpgrade.Json
