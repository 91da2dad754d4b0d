import FabricUpgrade.Text.Domain.Mapping
import FabricUpgrade.Text.Percent
import FabricUpgrade.Text.Punycode
import FabricUpgrade.Text.Split
import FabricUpgrade.Unicode.Direction
import FabricUpgrade.Unicode.Joining
import FabricUpgrade.Unicode.Mark
import FabricUpgrade.Unicode.Normal

/-!
# Domain names

`Domain.toAscii?` writes a domain name in ASCII: its characters are mapped and brought into the
normal form, and a label with other characters than those of ASCII is written behind `xn--`.  A
label that is so written already has to be the writing of such a label.
-/

namespace FabricUpgrade.Text.Domain

open Unicode

/-- Whether a character is one of ASCII. -/
def isAscii (character : Char) : Bool :=
  character.toNat < 0x80

/-- The characters that may not stand in the domain name of a URL. -/
def isForbidden (character : Char) : Bool :=
  character.toNat ≤ 0x20 || character.toNat = 0x7F
    || character ∈ ['#', '%', '/', ':', '<', '>', '?', '@', '[', '\\', ']', '^', '|']

/-- What stands in front of a label that is written in ASCII. -/
def mark : List Char :=
  ['x', 'n', '-', '-']

/-- How many characters behind the mark are read. -/
def greatestWritten : Nat :=
  2000

/-- How many characters a label may have that is to be written. -/
def greatestLabel : Nat :=
  1000

/-- The labels of a name. -/
def labelsOf (name : List Char) : List (List Char) :=
  splitAt (· = '.') name

/-- Maps a name and brings it into the normal form; fails for characters that no name may hold. -/
def map? (name : List Char) : Option (List Char) := do
  let mapped := normalize (← name.mapM Mapping.map?).flatten
  if mapped.any isForbidden then none else some mapped

/-- The label that is meant by one that has been mapped. -/
def labelOf? (label : List Char) : Option (List Char) :=
  if mark.isPrefixOf label then do
    let written := label.drop mark.length
    if greatestWritten < written.length then none
    else
      let read ← Punycode.decode? written
      let isNormal := map? read = some read
      if read.all isAscii ∨ mark.isPrefixOf read ∨ !isNormal then none else some read
  else some label

/-- Whether each character that joins its neighbours or keeps them apart has a use: it follows a
sign that takes the vowel away, or keeps two letters apart that would be joined.  The characters
passed so far are given in reverse. -/
def joinersHaveUse (passed : List Char) : List Char → Bool
  | [] => true
  | character :: rest =>
    let isJoiner := character ∈ Mapping.joiners
    let followsVirama := passed.head?.any fun previous => combiningClass previous = viramaClass
    let keepsApart :=
      character = '\u200c' && ((passed.dropWhile isTransparent).head?.any joinsNext
        && (rest.dropWhile isTransparent).head?.any joinsPrevious)
    (!isJoiner || followsVirama || keepsApart) && joinersHaveUse (character :: passed) rest

/-- Whether a label may stand in a name. -/
def isLabel (label : List Char) : Bool :=
  !(label.head?.any isMark) && joinersHaveUse [] label

/-- The directions that a label from left to right may hold. -/
def leftward : List Direction :=
  [.leftToRight, .europeanNumber, .neutral, .nonspacing]

/-- The directions that a label from right to left may hold. -/
def rightward : List Direction :=
  [.rightToLeft, .europeanNumber, .arabicNumber, .neutral, .nonspacing]

/-- Whether a label cannot be mistaken among labels of the other direction: it begins with a letter,
holds no letter of the other direction, ends with a letter or a digit, and does not mix digits. -/
def isDirected (label : List Char) : Bool :=
  let directions := label.map direction
  let last := (directions.reverse.dropWhile (· = .nonspacing)).head?
  match directions with
  | [] => true
  | .leftToRight :: _ =>
    directions.all leftward.contains
      && last.any [Direction.leftToRight, .europeanNumber].contains
  | .rightToLeft :: _ =>
    directions.all rightward.contains
      && last.any [Direction.rightToLeft, .europeanNumber, .arabicNumber].contains
      && !(directions.contains .europeanNumber && directions.contains .arabicNumber)
  | _ => false

/-- Whether a label holds anything that is written from right to left. -/
def isRightward (label : List Char) : Bool :=
  (label.map direction).any [Direction.rightToLeft, .arabicNumber].contains

/-- Writes a label in ASCII. -/
def write? (label : List Char) : Option (List Char) :=
  if label.all isAscii then some label
  else if greatestLabel < label.length then none
  else some (mark ++ Punycode.encode label)

/-- Writes a name in ASCII whose labels have been mapped. -/
def writeLabels? (mapped : List (List Char)) : Option (List Char) := do
  let labels ← mapped.mapM labelOf?
  if !labels.all isLabel ∨ (labels.any isRightward ∧ !labels.all isDirected) then none
  else return List.intercalate ['.'] (← labels.mapM write?)

/-- Writes a name in ASCII. -/
def toAscii? (name : List Char) : Option (List Char) :=
  let lower := name.map Char.toLower
  if lower.all isAscii ∧ (labelsOf lower).all (fun label => !mark.isPrefixOf label) then
    if lower.any isForbidden then none else some lower
  else (map? name).bind fun mapped => writeLabels? (labelsOf mapped)

end FabricUpgrade.Text.Domain
