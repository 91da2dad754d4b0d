import FabricUpgrade.Text.Shortest

/-!
# Decimals by 64-bit products

`Grisu.text` writes a binary64 number with digits that read back as it and that are found in 64-bit
arithmetic: the number and the bounds of the reals that round to it are multiplied by a power of ten
of which 64 bits are known, and digits of the upper bound are taken until what is left of it lies
within the bounds.  As the products are rounded, the bounds are drawn in by one unit; so now and
then a number gets a digit more than it needs or not the nearest digits.
-/

namespace FabricUpgrade.Text

/-- A significand times a power of two. -/
structure Scaled where
  significand : Nat
  exponent : Int
deriving DecidableEq, Repr

namespace Scaled

/-- The same number with a significand of 64 bits. -/
def normalize (number : Scaled) : Scaled :=
  let places := 63 - number.significand.log2
  ⟨number.significand * Nat.pow 2 places, number.exponent - places⟩

/-- The product of two numbers, with a significand that is rounded to 64 bits. -/
def mul (left right : Scaled) : Scaled :=
  ⟨(left.significand * right.significand + 0x8000000000000000) / 0x10000000000000000,
    left.exponent + right.exponent + 64⟩

/-- A power of ten, rounded to 64 bits. -/
def tenTo (power : Int) : Scaled :=
  if 0 ≤ power then
    let whole : Nat := Nat.pow 10 power.toNat
    let drop : Nat := whole.log2 - 63
    let keep : Nat := 63 - whole.log2
    ⟨(2 * whole * Nat.pow 2 keep / Nat.pow 2 drop + 1) / 2, (drop : Int) - keep⟩
  else
    let divisor : Nat := Nat.pow 10 (-power).toNat
    let places : Nat := divisor.log2 + 64
    ⟨(2 * Nat.pow 2 places / divisor + 1) / 2, -places⟩

end Scaled

namespace Grisu

/-- The bounds of the reals that round to a number, which count with one exponent. -/
structure Bounds where
  low : Scaled
  high : Scaled

/-- The bounds of a number: half way to its neighbours. -/
def boundsOf (number : Scaled) : Bounds :=
  let high := Scaled.normalize ⟨2 * number.significand + 1, number.exponent - 1⟩
  let (low, exponent) : Nat × Int :=
    if number.significand = Shortest.fractionCount then
      (4 * number.significand - 1, number.exponent - 2)
    else (2 * number.significand - 1, number.exponent - 1)
  ⟨⟨low * Nat.pow 2 (exponent - high.exponent).toNat, high.exponent⟩, high⟩

/-- The power of ten that brings a number of 64 bits with this exponent to one with a whole part of
a few digits.  Only every eighth power is used. -/
def powerFor (exponent : Int) : Int :=
  let least := 347 - (61 + exponent) * 30102999566398114 / 100000000000000000
  8 * (least / 8 + 1) - 348

/-- A number in units of some power of two, with the room around it. -/
structure Target where
  /-- How many units make up one. -/
  one : Nat
  /-- The room between the bounds. -/
  room : Nat
  /-- How far the number lies below the upper bound. -/
  distance : Nat

/-- Lowers the last digit as long as that brings the digits nearer to the number and leaves them
within the bounds.  The step is what the last digit counts, the rest is how far the digits lie below
the upper bound. -/
def lower (room distance step : Nat) : Nat → Nat → Nat → Nat
  | 0, _, digits => digits
  | times + 1, rest, digits =>
    if rest < distance ∧ rest + step ≤ room
        ∧ (rest + step < distance ∨ rest + step - distance < distance - rest) then
      lower room distance step times (rest + step) (digits - 1)
    else digits

/-- How often the last digit can be lowered. -/
def greatestDigit : Nat :=
  9

/-- Takes digits of the fraction until what is left lies within the bounds.  The rest and the room
are ten times as many units with every digit; the places are those behind the point so far. -/
def takeFraction (target : Target) : Nat → Nat → Nat → Nat → Nat → Nat × Int
  | 0, places, _, _, digits => (digits, -places)
  | more + 1, places, rest, room, digits =>
    let places := places + 1
    let room := room * 10
    let digits := digits * 10 + rest * 10 / target.one
    let rest := rest * 10 % target.one
    if rest < room then
      let distance := if places < 9 then target.distance * Nat.pow 10 places else 0
      (lower room distance target.one greatestDigit rest digits, -places)
    else takeFraction target more places rest room digits

/-- How many digits of a fraction are enough: the room is at least a unit, and one is less than this
power of ten of units. -/
def fractionLimit : Nat :=
  20

/-- Takes digits of the whole part, of which so many places are left, until what is left lies within
the bounds. -/
def takeWhole (target : Target) (fraction : Nat) : Nat → Nat → Nat → Nat × Int
  | 0, _, digits => takeFraction target fractionLimit 0 fraction target.room digits
  | places + 1, whole, digits =>
    let digits := digits * 10 + whole / Nat.pow 10 places
    let whole := whole % Nat.pow 10 places
    let rest := whole * target.one + fraction
    if rest ≤ target.room then
      let step := Nat.pow 10 places * target.one
      (lower target.room target.distance step greatestDigit rest digits, places)
    else takeWhole target fraction places whole digits

/-- Digits of a number, and the power of ten of the last one. -/
def digits (number : Scaled) : Nat × Int :=
  let bounds := boundsOf number
  let power := powerFor bounds.high.exponent
  let ten := Scaled.tenTo power
  let middle := number.normalize.mul ten
  let high := (bounds.high.mul ten).significand - 1
  let low := (bounds.low.mul ten).significand + 1
  let one := Nat.pow 2 (-middle.exponent).toNat
  let target : Target := ⟨one, high - low, high - middle.significand⟩
  let whole := high / one
  let (digits, last) :=
    takeWhole target (high % one) (min 9 (Nat.toDigits 10 whole).length) whole 0
  (digits, last - power)

/-- Lays digits out: positionally with a fraction as long as the point is at most twenty-one places
behind the first digit or six in front of it, else with an exponent. -/
def layout (digits : Nat) (power : Int) : String :=
  let shown := Nat.toDigits 10 digits
  let point := shown.length + power
  if 0 ≤ power ∧ point ≤ 21 then
    String.ofList (shown ++ List.replicate power.toNat '0' ++ ['.', '0'])
  else if 0 < point ∧ point ≤ 21 then
    String.ofList (shown.take point.toNat ++ '.' :: shown.drop point.toNat)
  else if -6 < point ∧ point ≤ 0 then
    String.ofList (['0', '.'] ++ List.replicate (-point).toNat '0' ++ shown)
  else
    let fraction := if shown.length = 1 then [] else '.' :: shown.drop 1
    String.ofList (shown.take 1 ++ fraction ++ ['e']) ++ toString (point - 1)

/-- The bit of the sign of a binary64 value. -/
def signBit : Nat :=
  0x8000000000000000

/-- The number of the bits of infinity. -/
def infinity : Nat :=
  0x7FF0000000000000

/-- The text of a number. -/
def text (value : Float) : String :=
  let bits := value.toBits.toNat
  let sign := if signBit ≤ bits then "-" else ""
  let magnitude := bits % signBit
  if magnitude = 0 then sign ++ "0.0"
  else if infinity < magnitude then "NaN"
  else if magnitude = infinity then sign ++ "inf"
  else
    let number := Shortest.ofBits magnitude
    let (digits, power) := digits ⟨number.significand, number.exponent⟩
    sign ++ layout digits power

end Grisu

end FabricUpgrade.Text
