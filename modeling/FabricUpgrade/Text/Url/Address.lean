import FabricUpgrade.Text.Percent
import FabricUpgrade.Text.Split

/-!
# Numeric addresses

`Address4.parse?` reads an address of four bytes, whose parts can be given in three bases and left
out; `Address6.parse?` reads one of eight pieces of sixteen bits, where two colons in a row stand
for pieces that are zero.  Both are written in one way only.
-/

namespace FabricUpgrade.Text

open Percent

namespace Address4

/-- The number of digits of a base. -/
def numberOf? (base : Nat) (digits : List Char) : Option Nat :=
  digits.foldlM (fun value digit => do
    let digit ← hexValue? digit
    if digit < base then some (value * base + digit) else none) 0

/-- The number of one part: decimal, octal behind a zero, hexadecimal behind `0x`. -/
def part? (part : List Char) : Option Nat :=
  match part with
  | [] => none
  | '0' :: 'x' :: rest => numberOf? 16 rest
  | '0' :: 'X' :: rest => numberOf? 16 rest
  | '0' :: rest => numberOf? 8 rest
  | digits => numberOf? 10 digits

/-- The value of an address: every part but the last one is a byte, the last one holds the bytes
that are left. -/
def value? (parts : List Nat) : Option Nat :=
  match parts.reverse with
  | [] => none
  | last :: leading =>
    let leading := leading.reverse
    if 4 < parts.length ∨ leading.any (255 < ·) ∨ Nat.pow 256 (5 - parts.length) ≤ last then none
    else
      let places := leading.zipIdx.map fun place => place.1 * Nat.pow 256 (3 - place.2)
      some (places.foldl (· + ·) last)

/-- The parts of a name between its dots, where one dot at the end does not count. -/
def partsOf (name : List Char) : List (List Char) :=
  let parts := splitAt (· = '.') name
  if 1 < parts.length ∧ parts.getLast? = some [] then parts.dropLast else parts

/-- Whether a name can only be meant as an address: its last part is a number. -/
def isMeant (name : List Char) : Bool :=
  (partsOf name).getLast?.any fun last =>
    (part? last).isSome || (last ≠ [] && last.all Char.isDigit)

/-- Reads an address. -/
def parse? (name : List Char) : Option Nat := do
  value? (← (partsOf name).mapM part?)

/-- An address with a dot between its four bytes. -/
def text (value : Nat) : String :=
  ".".intercalate
    ([value / 16777216, value / 65536 % 256, value / 256 % 256, value % 256].map toString)

end Address4

namespace Address6

/-- How many pieces an address has. -/
def pieceCount : Nat :=
  8

/-- Reads a piece of up to four hexadecimal digits. -/
def piece? (digits : List Char) : Option Nat :=
  if digits.isEmpty ∨ 4 < digits.length then none else Address4.numberOf? 16 digits

/-- Reads a byte in decimal digits, of which none is a zero in front of others. -/
def byte? (digits : List Char) : Option Nat :=
  if digits.isEmpty ∨ (digits.head? = some '0' ∧ 1 < digits.length) then none
  else (Address4.numberOf? 10 digits).filter (· ≤ 255)

/-- Reads two pieces that are written as four bytes. -/
def bytes? (text : List Char) : Option (List Nat) := do
  match ← (splitAt (· = '.') text).mapM byte? with
  | [first, second, third, fourth] => some [first * 256 + second, third * 256 + fourth]
  | _ => none

/-- Reads the pieces between colons; the last two may be four bytes if nothing follows. -/
def pieces? (isLast : Bool) : List (List Char) → Option (List Nat)
  | [] => some []
  | [last] =>
    if isLast ∧ '.' ∈ last then bytes? last else (piece? last).map fun piece => [piece]
  | digits :: rest => do return (← piece? digits) :: (← pieces? isLast rest)

/-- Reads the pieces of a text, which may be empty. -/
def side? (isLast : Bool) (text : List Char) : Option (List Nat) :=
  if text.isEmpty then some [] else pieces? isLast (splitAt (· = ':') text)

/-- Splits a text at the first two colons in a row. -/
def splitDouble : List Char → Option (List Char × List Char)
  | ':' :: ':' :: rest => some ([], rest)
  | character :: rest => (splitDouble rest).map fun sides => (character :: sides.1, sides.2)
  | [] => none

/-- Reads an address as its pieces.  Two colons in a row stand for at least one piece. -/
def parse? (text : List Char) : Option (List Nat) :=
  match splitDouble text with
  | none => (pieces? true (splitAt (· = ':') text)).filter fun pieces => pieces.length = pieceCount
  | some (front, back) => do
    let front ← side? false front
    let back ← side? true back
    let given := front.length + back.length
    if given < pieceCount then some (front ++ List.replicate (pieceCount - given) 0 ++ back)
    else none

/-- How many zeros stand in front. -/
def zerosOf (pieces : List Nat) : Nat :=
  (pieces.takeWhile (· = 0)).length

/-- The place and the length of the longest run of zeros, the first one of several. -/
def longestZeros (pieces : List Nat) : Nat × Nat :=
  (List.range pieces.length).foldl
    (fun best place =>
      let zeros := zerosOf (pieces.drop place)
      if best.2 < zeros then (place, zeros) else best)
    (0, 0)

/-- The pieces with a colon between them, in hexadecimal digits. -/
def join (pieces : List Nat) : String :=
  ":".intercalate (pieces.map fun piece => String.ofList (Nat.toDigits 16 piece))

/-- An address as text: two colons stand for the longest run of more than one zero. -/
def text (pieces : List Nat) : String :=
  let (place, zeros) := longestZeros pieces
  if zeros < 2 then join pieces
  else join (pieces.take place) ++ "::" ++ join (pieces.drop (place + zeros))

end Address6

end FabricUpgrade.Text
