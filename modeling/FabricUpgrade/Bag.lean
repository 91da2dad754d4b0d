import FabricUpgrade.Json.Record

/-!
# Extended configuration

A group carries a bag of string settings.  The manager stores it as a list, so the order of the
entries is kept and a key may stand more than once: a look-up takes the first entry of a key, the
view as a map takes the last one.
-/

namespace FabricUpgrade

/-- One setting of a bag. -/
structure BagEntry where
  key : String
  value : String
deriving DecidableEq, Repr

namespace BagEntry

/-- Reads an entry. -/
def ofJson? (value : Json) : Option BagEntry := do
  let record ← Json.record? ["key", "value"] value
  return {
    key := ← record.required "key" Json.string?
    value := ← record.required "value" Json.string? }

/-- Writes an entry. -/
def toJson (entry : BagEntry) : Json :=
  .object [("key", .string entry.key), ("value", .string entry.value)]

end BagEntry

/-- The entries of an extended configuration, in the manager's order. -/
abbrev Bag := List BagEntry

namespace Bag

/-- The value of the first entry of a key. -/
def get? (bag : Bag) (key : String) : Option String :=
  (bag.find? fun entry => entry.key = key).map BagEntry.value

/-- Gives a key its value: in the place of its first entry, else at the end. -/
def set : Bag → String → String → Bag
  | [], key, value => [⟨key, value⟩]
  | entry :: rest, key, value =>
    if entry.key = key then ⟨key, value⟩ :: rest else entry :: Bag.set rest key value

/-- Takes every entry of a key out. -/
def remove (bag : Bag) (key : String) : Bag :=
  bag.filter fun entry => entry.key ≠ key

/-- Collects pairs, a later one overwriting an earlier one of the same key. -/
def ofPairs (pairs : List (String × String)) : Bag :=
  pairs.foldl (fun bag pair => bag.set pair.1 pair.2) []

/-- The bag as a map in the order of the keys, the last entry of a key counting. -/
def toMap (bag : Bag) : List (String × String) :=
  SortedMap.ofEntries (bag.map fun entry => (entry.key, entry.value))

/-- Reads a bag. -/
def ofJson? : Json → Option Bag :=
  Json.list? BagEntry.ofJson?

/-- Writes a bag. -/
def toJson (bag : Bag) : Json :=
  .array (bag.map BagEntry.toJson)

end Bag

/-- A map from strings to strings as a JSON object. -/
def Json.ofMap (map : List (String × String)) : Json :=
  .object (map.map fun entry => (entry.1, .string entry.2))

end FabricUpgrade
