/-!
# Shortest decimals

The shortest decimal of a binary64 number has the fewest digits that read back as it, and of the
decimals with that many digits it is the nearest one.  `Shortest.digits?` finds the digits in exact
arithmetic: for one digit, two digits and so on it looks at the two neighbours of the number on that
decimal grid.
-/

namespace FabricUpgrade.Text

/-- A positive binary64 number: a significand times a power of two.  The gap below it is half as
wide as the gap above it where the significand is the least one of its power. -/
structure Binary where
  significand : Nat
  exponent : Int
  narrowBelow : Bool

namespace Shortest

/-- How many fractions there are to one exponent, which is also the least significand of a number
that is not too small for the exponents. -/
def fractionCount : Nat :=
  0x10000000000000

/-- How many exponents there are. -/
def exponentCount : Nat :=
  0x800

/-- The number of the bits of a finite binary64 value without its sign. -/
def ofBits (bits : Nat) : Binary :=
  let field : Nat := bits / fractionCount % exponentCount
  let fraction : Nat := bits % fractionCount
  if field = 0 then ⟨fraction, -1074, false⟩
  else ⟨fractionCount + fraction, (field : Int) - 1075, fraction = 0 && 1 < field⟩

/-- A fraction of natural numbers. -/
structure Fraction where
  numerator : Nat
  denominator : Nat

/-- Whole units times a power of two. -/
def scale (units : Nat) (exponent : Int) : Fraction :=
  ⟨units * Nat.pow 2 exponent.toNat, Nat.pow 2 (-exponent).toNat⟩

/-- Whether digits times a power of ten are at most a fraction. -/
def decimalLe (digits : Nat) (power : Int) (bound : Fraction) : Bool :=
  digits * Nat.pow 10 power.toNat * bound.denominator
    ≤ bound.numerator * Nat.pow 10 (-power).toNat

/-- Whether a fraction is at most digits times a power of ten. -/
def leDecimal (bound : Fraction) (digits : Nat) (power : Int) : Bool :=
  bound.numerator * Nat.pow 10 (-power).toNat
    ≤ digits * Nat.pow 10 power.toNat * bound.denominator

/-- The least power of ten above a positive fraction. -/
def powerAbove (value : Fraction) : Int :=
  let whole := value.numerator / value.denominator
  if 0 < whole then (Nat.toDigits 10 whole).length
  else
    let inverse := value.denominator / value.numerator
    let places : Int := (Nat.toDigits 10 inverse).length
    if leDecimal value 1 (1 - places) && decimalLe 1 (1 - places) value then 2 - places
    else 1 - places

/-- Whether digits times a power of ten read back as the number. -/
def readsBack (number : Binary) (digits : Nat) (power : Int) : Bool :=
  let low := scale (4 * number.significand - if number.narrowBelow then 1 else 2)
    (number.exponent - 2)
  let high := scale (4 * number.significand + 2) (number.exponent - 2)
  let closed := number.significand % 2 = 0
  if closed then leDecimal low digits power && decimalLe digits power high
  else !decimalLe digits power low && !leDecimal high digits power

/-- Digits and a power of ten, if that many digits are enough. -/
def withDigits? (number : Binary) (count : Nat) : Option (Nat × Int) :=
  let value := scale number.significand number.exponent
  let power := powerAbove value - count
  let below :=
    value.numerator * Nat.pow 10 (-power).toNat
      / (value.denominator * Nat.pow 10 power.toNat)
  let belowFits := readsBack number below power
  let aboveFits := readsBack number (below + 1) power
  let middle := scale (2 * number.significand) number.exponent
  if belowFits && aboveFits then
    some (if decimalLe (2 * below + 1) power middle then below + 1 else below, power)
  else if belowFits then some (below, power)
  else if aboveFits then some (below + 1, power)
  else none

/-- The fewest digits of a positive number, and the power of ten of the last one.  The neighbour
above a single digit can be a power of ten. -/
def digits? (number : Binary) : Option (Nat × Int) :=
  ((List.range 17).findSome? fun count => withDigits? number (count + 1)).map fun found =>
    if found.1 % 10 = 0 then (found.1 / 10, found.2 + 1) else found

end Shortest

end FabricUpgrade.Text
