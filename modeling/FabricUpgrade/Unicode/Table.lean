/-!
# Tables as texts

A large table of characters is kept as lines of hexadecimal numbers: commas stand between the
numbers of an entry, spaces between the entries.
-/

namespace FabricUpgrade.Unicode

/-- The value of a hexadecimal digit in capitals. -/
def digitValue (digit : Char) : Nat :=
  if digit.isDigit then digit.toNat - '0'.toNat else digit.toNat - 'A'.toNat + 10

/-- The value of a hexadecimal number. -/
def numberOf (digits : String) : Nat :=
  digits.toList.foldl (fun value digit => value * 16 + digitValue digit) 0

/-- The entries of a table. -/
def tableOf (lines : List String) : List (List Nat) :=
  lines.flatMap fun line => (line.splitOn " ").map fun entry => (entry.splitOn ",").map numberOf

end FabricUpgrade.Unicode
