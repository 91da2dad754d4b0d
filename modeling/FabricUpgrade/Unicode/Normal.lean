import FabricUpgrade.Unicode.CombiningClass
import FabricUpgrade.Unicode.Decomposition

/-!
# Normal form

`Unicode.normalize` brings a text into the form in which texts of the same meaning are equal: every
character is taken apart as far as it goes, marks are put into order, and what makes up a composite
is put together again.
-/

namespace FabricUpgrade.Unicode

namespace Hangul

/-- The first syllable. -/
def firstSyllable : Nat := 0xAC00

/-- The first leading consonant. -/
def firstLead : Nat := 0x1100

/-- The first vowel. -/
def firstVowel : Nat := 0x1161

/-- The number in front of the first trailing consonant. -/
def noTrail : Nat := 0x11A7

/-- How many leading consonants make up syllables. -/
def leads : Nat := 19

/-- How many vowels make up syllables. -/
def vowels : Nat := 21

/-- How many trailing consonants make up syllables, none of them counted. -/
def trails : Nat := 28

/-- The letters of a syllable. -/
def letters? (character : Char) : Option (List Char) :=
  let place := character.toNat - firstSyllable
  if character.toNat < firstSyllable ∨ leads * vowels * trails ≤ place then none
  else
    let trail := place % trails
    let lead := Char.ofNat (firstLead + place / (vowels * trails))
    let vowel := Char.ofNat (firstVowel + place / trails % vowels)
    some (if trail = 0 then [lead, vowel] else [lead, vowel, Char.ofNat (noTrail + trail)])

/-- The syllable of a leading consonant and a vowel, or of such a syllable and a trailing
consonant. -/
def join? (first second : Char) : Option Char :=
  let lead := first.toNat - firstLead
  let vowel := second.toNat - firstVowel
  let place := first.toNat - firstSyllable
  let trail := second.toNat - noTrail
  if firstLead ≤ first.toNat ∧ lead < leads ∧ firstVowel ≤ second.toNat ∧ vowel < vowels then
    some (Char.ofNat (firstSyllable + (lead * vowels + vowel) * trails))
  else if firstSyllable ≤ first.toNat ∧ place < leads * vowels * trails ∧ place % trails = 0
      ∧ noTrail < second.toNat ∧ trail < trails then
    some (Char.ofNat (first.toNat + trail))
  else none

end Hangul

/-- How often the first part of a composite can be a composite again, and more. -/
def decompositionDepth : Nat :=
  4

/-- Takes a character apart as far as it goes. -/
def decomposeWithin : Nat → Char → List Char
  | 0, character => [character]
  | depth + 1, character =>
    match composites.find? fun composite => composite.whole = character with
    | some composite => decomposeWithin depth composite.first ++ [composite.second]
    | none => (replacements.lookup character).getD [character]

/-- The characters that one is made up of. -/
def decompose (character : Char) : List Char :=
  if character.toNat < 0xC0 then [character]
  else (Hangul.letters? character).getD (decomposeWithin decompositionDepth character)

/-- Puts a mark in front of ordered characters, behind the marks there that have a lower class. -/
def insertMark (mark : Char) : List Char → List Char
  | [] => [mark]
  | first :: rest =>
    if 0 < combiningClass first ∧ combiningClass first < combiningClass mark then
      first :: insertMark mark rest
    else mark :: first :: rest

/-- Puts marks into the order of their classes. -/
def orderMarks : List Char → List Char
  | [] => []
  | first :: rest =>
    if combiningClass first = 0 then first :: orderMarks rest
    else insertMark first (orderMarks rest)

/-- The composite of two characters. -/
def join? (first second : Char) : Option Char :=
  (Hangul.join? first second).orElse fun _ =>
    (composites.find? fun composite =>
      composite.first = first ∧ composite.second = second).map Composite.whole

/-- Puts characters together with the one they follow, as long as no mark of the same or a higher
class stands in between.  The marks that stay are given in reverse. -/
def composeFrom (first : Char) (marks : List Char) : List Char → List Char
  | [] => first :: marks.reverse
  | next :: rest =>
    let isNear := marks.head?.all fun mark => combiningClass mark < combiningClass next
    match if isNear then join? first next else none with
    | some composite => composeFrom composite marks rest
    | none =>
      if combiningClass next = 0 then first :: marks.reverse ++ composeFrom next [] rest
      else composeFrom first (next :: marks) rest

/-- Puts characters together. -/
def compose : List Char → List Char
  | [] => []
  | first :: rest =>
    if combiningClass first = 0 then composeFrom first [] rest else first :: compose rest

/-- The normal form of a text. -/
def normalize (text : List Char) : List Char :=
  compose (orderMarks (text.flatMap decompose))

end FabricUpgrade.Unicode
