/-!
# Blank characters

The characters with the Unicode property `White_Space`, and texts without those at their ends.
-/

namespace FabricUpgrade.Text

/-- Whether a character has the property `White_Space`. -/
def isBlank (character : Char) : Bool :=
  let point := character.toNat
  (0x9 ≤ point && point ≤ 0xD) || point = 0x20 || point = 0x85 || point = 0xA0 || point = 0x1680
    || (0x2000 ≤ point && point ≤ 0x200A) || point = 0x2028 || point = 0x2029 || point = 0x202F
    || point = 0x205F || point = 0x3000

/-- Drops the elements at the end that pass the test. -/
def dropEndWhile {α : Type} (test : α → Bool) (elements : List α) : List α :=
  (elements.reverse.dropWhile test).reverse

/-- The text without the blanks at both ends. -/
def trim (text : String) : String :=
  String.ofList (dropEndWhile isBlank (text.toList.dropWhile isBlank))

/-- The text without the slashes at its end. -/
def trimSlashes (text : String) : String :=
  String.ofList (dropEndWhile (· = '/') text.toList)

/-- The text with its ASCII capitals made small. -/
def lowerAscii (text : String) : String :=
  String.ofList (text.toList.map Char.toLower)

end FabricUpgrade.Text
