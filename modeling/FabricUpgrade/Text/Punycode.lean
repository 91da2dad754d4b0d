/-!
# Punycode

A text is written in ASCII: first its ASCII characters and, if there are any, a hyphen, then a
number for each other character in ascending order.  The number says how many places of how many
code points are passed over since the one before, and is written with digits of which the last one
is below a threshold.  The thresholds adapt to the numbers seen so far.
-/

namespace FabricUpgrade.Text.Punycode

/-- The base of the digits. -/
def base : Nat :=
  36

/-- The bias in front of the first number. -/
def firstBias : Nat :=
  72

/-- The first code point beyond ASCII. -/
def firstPoint : Nat :=
  0x80

/-- The character of a digit. -/
def digit (value : Nat) : Char :=
  if value < 26 then Char.ofNat ('a'.toNat + value) else Char.ofNat ('0'.toNat + (value - 26))

/-- The value of a digit. -/
def digitValue? (character : Char) : Option Nat :=
  if character.isDigit then some (character.toNat - '0'.toNat + 26)
  else if character.isAlpha then some (character.toLower.toNat - 'a'.toNat)
  else none

/-- The value below which a digit ends its number.  The place counts in steps of the base. -/
def threshold (bias place : Nat) : Nat :=
  min 26 (max 1 (place - bias))

/-- No threshold is zero, so every number ends. -/
theorem threshold_pos (bias place : Nat) : 1 ≤ threshold bias place := by
  unfold threshold
  omega

/-- Divides until a number is small, and adds the base to the bias each time. -/
def shrink (number bias : Nat) : Nat × Nat :=
  if 455 < number then shrink (number / 35) (bias + base) else (number, bias)
termination_by number
decreasing_by omega

/-- The bias behind a number, with the count of the characters by then. -/
def adapt (number count : Nat) (isFirst : Bool) : Nat :=
  let damped := if isFirst then number / 700 else number / 2
  let (small, bias) := shrink (damped + damped / count) 0
  bias + base * small / (small + 38)

/-- The digits of a number. -/
def writeNumber (bias place number : Nat) : List Char :=
  let limit := threshold bias place
  if number < limit then [digit number]
  else
    digit (limit + (number - limit) % (base - limit))
      :: writeNumber bias (place + base) ((number - limit) / (base - limit))
termination_by number
decreasing_by
  have positive := threshold_pos bias place
  have : (number - threshold bias place) / (base - threshold bias place)
      ≤ number - threshold bias place := Nat.div_le_self _ _
  omega

/-- What is known between two numbers. -/
structure State where
  /-- The places passed over since the last number. -/
  passed : Nat
  bias : Nat
  /-- The characters that are written. -/
  count : Nat

/-- Writes a number for each place of a code point; characters below it are passed over. -/
def writePoint (isFirst : Bool) (point : Nat) : List Char → State → List Char × State
  | [], state => ([], state)
  | character :: rest, state =>
    if character.toNat < point then
      writePoint isFirst point rest { state with passed := state.passed + 1 }
    else if character.toNat = point then
      let number := writeNumber state.bias base state.passed
      let next : State :=
        ⟨0, adapt state.passed (state.count + 1) isFirst, state.count + 1⟩
      let (written, state) := writePoint false point rest next
      (number ++ written, state)
    else writePoint isFirst point rest state

/-- Writes the numbers of code points in ascending order, of which the first is the one that was
reached. -/
def writePoints (text : List Char) (isFirst : Bool) (reached : Nat) :
    List Nat → State → List Char
  | [], _ => []
  | point :: points, state =>
    let passed := state.passed + (point - reached) * (state.count + 1)
    let (written, state) := writePoint isFirst point text { state with passed }
    written ++ writePoints text false (point + 1) points { state with passed := state.passed + 1 }

/-- Writes a text. -/
def encode (text : List Char) : List Char :=
  let isAscii (character : Char) : Bool := character.toNat < firstPoint
  let basic := text.filter isAscii
  let points := (text.filter fun character => !isAscii character).map Char.toNat
  let ascending := points.eraseDups.mergeSort
  let front := if basic.isEmpty then [] else basic ++ ['-']
  front ++ writePoints text true firstPoint ascending ⟨0, firstBias, basic.length⟩

/-- Reads a number and adds it, times a weight, to what is given. -/
def readNumber (bias : Nat) : Nat → Nat → Nat → List Char → Option (Nat × List Char)
  | _, _, _, [] => none
  | place, weight, sum, character :: rest =>
    match digitValue? character with
    | none => none
    | some value =>
      let sum := sum + value * weight
      let limit := threshold bias place
      if value < limit then some (sum, rest)
      else readNumber bias (place + base) (weight * (base - limit)) sum rest

/-- Reading a number takes at least one character of the text. -/
theorem readNumber_length {bias place weight sum number : Nat} {text rest : List Char}
    (read : readNumber bias place weight sum text = some (number, rest)) :
    rest.length < text.length := by
  induction text generalizing place weight sum with
  | nil => simp [readNumber] at read
  | cons character text ih =>
    rw [readNumber] at read
    split at read
    · simp at read
    · dsimp only at read
      split at read
      · simp only [Option.some.injEq, Prod.mk.injEq] at read
        simp [read.2]
      · have := ih read
        simp only [List.length_cons]
        omega

/-- Reads the numbers and puts their characters in place.  The start is the place behind the last
character that was put, and the point is its code point. -/
def readPoints (bias point start : Nat) (isFirst : Bool) (read text : List Char) :
    Option (List Char) :=
  match text with
  | [] => some read
  | character :: rest =>
    match found : readNumber bias base 1 start (character :: rest) with
    | none => none
    | some (number, left) =>
      let count := read.length + 1
      let point := point + number / count
      let place := number % count
      if point.isValidChar then
        readPoints (adapt (number - start) count isFirst) point (place + 1) false
          (read.insertIdx place (Char.ofNat point)) left
      else none
termination_by text.length
decreasing_by
  exact readNumber_length found

/-- Splits a text at its last hyphen, if something stands in front of that. -/
def splitBasic (text : List Char) : List Char × List Char :=
  let behind := (text.reverse.takeWhile (· ≠ '-')).reverse
  let front := text.take (text.length - behind.length - 1)
  if front.isEmpty then ([], text) else (front, behind)

/-- Reads a text that is written in ASCII. -/
def decode? (text : List Char) : Option (List Char) :=
  let (basic, numbers) := splitBasic text
  if text.all fun character => character.toNat < firstPoint then
    readPoints firstBias firstPoint 0 true basic numbers
  else none

end FabricUpgrade.Text.Punycode
