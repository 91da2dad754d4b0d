import FabricUpgrade.Json.Basic
import FabricUpgrade.Text.Shortest

/-!
# The value of a numeral

A numeral without a fraction and an exponent is an integer if it is in range.  Any other one is
read in two steps, each of which rounds to binary64: the digits in front that make up a number of
64 bits are its significand, and that is scaled by a power of ten.  What comes out is kept as the
shortest decimal that stands for it.
-/

namespace FabricUpgrade.Json

/-- The digits of a numeral that count, and the power of ten of the last one. -/
structure Significand where
  value : Nat
  power : Int := 0
deriving DecidableEq, Repr

namespace Significand

/-- The value with one more digit, unless that is too large for 64 bits. -/
def extend? (value : Nat) (digit : Char) : Option Nat :=
  let extended := value * 10 + (digit.toNat - '0'.toNat)
  if extended < wordCount then some extended else none

/-- Takes the digits in front of the point in.  From the first one that does not fit on, they only
count as places. -/
def ofWhole (value : Nat) (digits : List Char) : Significand :=
  match digits with
  | [] => ⟨value, 0⟩
  | digit :: rest =>
    match extend? value digit with
    | some extended => ofWhole extended rest
    | none => ⟨value, (digit :: rest).length⟩

/-- Takes the digits behind the point in, up to the first one that does not fit. -/
def takeFraction (significand : Significand) (digits : List Char) : Significand :=
  match digits with
  | [] => significand
  | digit :: rest =>
    match extend? significand.value digit with
    | some extended => takeFraction ⟨extended, significand.power - 1⟩ rest
    | none => significand

/-- The greatest power of ten that numbers are scaled by in one step. -/
def greatestPower : Nat :=
  308

/-- A power of ten as a floating point number. -/
def tenTo (power : Nat) : Float :=
  Float.ofScientific 1 false power

/-- Divides by a power of ten, in steps where one is not enough. -/
def scaleDown (value : Float) (places : Nat) : Float :=
  if places ≤ greatestPower then value / tenTo places
  else if value == 0 then value
  else scaleDown (value / tenTo greatestPower) (places - greatestPower)
termination_by places
decreasing_by
  simp only [greatestPower] at *
  omega

/-- The value times a power of ten, unless it is beyond all floating point numbers. -/
def scaled? (value : Nat) (power : Int) : Option Float :=
  let start := Float.ofScientific value false 0
  if power < 0 then some (scaleDown start power.natAbs)
  else if value = 0 then some start
  else if greatestPower < power.natAbs then none
  else
    let product := start * tenTo power.natAbs
    if product.isInf then none else some product

end Significand

/-- The number that a magnitude and a sign stand for. -/
def Number.ofFloat (negative : Bool) (magnitude : Float) : Number :=
  match Text.Shortest.digits? (Text.Shortest.ofBits magnitude.toBits.toNat) with
  | some (digits, power) => .decimal negative digits power
  | none => .decimal negative 0 0

/-- The value of a numeral with its digits in front of the point and behind it. -/
def ofNumeral (negative : Bool) (whole fraction : List Char) (exponent : Int) : Json :=
  let significand := (Significand.ofWhole 0 whole).takeFraction fraction
  match Significand.scaled? significand.value (significand.power + exponent) with
  | some magnitude => .number (.ofFloat negative magnitude)
  | none => .unreadable

/-- The value of a numeral without a fraction and an exponent: an integer where it is in range and
not a negative zero. -/
def ofWholeNumeral (negative : Bool) (digits : List Char) : Json :=
  let value := Nat.ofDigitChars 10 digits 0
  if negative then
    if value = 0 ∨ negativeCount < value then ofNumeral true digits [] 0
    else .number (.integer (-(value : Int)))
  else if value < wordCount then .number (.integer value)
  else ofNumeral false digits [] 0

end FabricUpgrade.Json
