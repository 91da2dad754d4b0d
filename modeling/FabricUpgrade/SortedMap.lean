/-!
# Maps in the order of their keys

A map is kept as the list of its entries, in the order of the keys and with each key once.
-/

namespace FabricUpgrade.SortedMap

variable {Value : Type}

/-- Sets the value of a key. -/
def insert (key : String) (value : Value) : List (String × Value) → List (String × Value)
  | [] => [(key, value)]
  | (other, old) :: rest =>
    if key < other then (key, value) :: (other, old) :: rest
    else if key = other then (key, value) :: rest
    else (other, old) :: insert key value rest

/-- The map of entries; of the entries of one key the last one counts. -/
def ofEntries (entries : List (String × Value)) : List (String × Value) :=
  entries.foldl (fun map entry => insert entry.1 entry.2 map) []

end FabricUpgrade.SortedMap
