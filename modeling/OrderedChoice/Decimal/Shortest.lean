import OrderedChoice.Binary64

/-!
# The shortest decimal that reads back

Every real number in an interval around a double is rounded to that double.
Among the decimals in the interval one with the fewest digits is chosen, and of
those the one nearest to the double.  For a given number of digits only the two
decimals next to the double need to be tried: if any decimal of that grid lies in
the interval, one of its two neighbours does.
-/

namespace OrderedChoice

/-- The decimal `digits * 10 ^ power`. -/
structure Decimal where
  digits : Nat
  power : Int
  deriving DecidableEq

/-- The interval of magnitudes that are rounded to a double, as fractions over one
denominator.  The ends belong to it exactly when the significand is even. -/
structure RoundingInterval where
  low : Nat
  middle : Nat
  high : Nat
  denominator : Nat
  closed : Bool

namespace RoundingInterval

/-- The interval reaches half a step to each side, and only a quarter of a step
down where the significand is a power of two and the steps below are finer. -/
def around (significand exponent : Nat) : RoundingInterval :=
  let step := Nat.pow 2 (exponent - 1074)
  let below := if significand = Nat.pow 2 52 ∧ 0 < exponent then step else 2 * step
  { low := 4 * significand * step - below
    middle := 4 * significand * step
    high := 4 * significand * step + 2 * step
    denominator := 4 * Nat.pow 2 (1074 - exponent)
    closed := significand % 2 = 0 }

/-- Whether the decimal lies in the interval. -/
def contains (interval : RoundingInterval) (decimal : Decimal) : Bool :=
  let point := decimal.digits * Nat.pow 10 decimal.power.toNat * interval.denominator
  let grid := Nat.pow 10 (-decimal.power).toNat
  if interval.closed then
    decide (interval.low * grid ≤ point) && decide (point ≤ interval.high * grid)
  else
    decide (interval.low * grid < point) && decide (point < interval.high * grid)

/-- How many decimal digits a number has, at least one. -/
def digitCount (number : Nat) : Nat := (Nat.toDigits 10 number).length

/-- The power of ten of the first digit of the middle. -/
def leadingPower (interval : RoundingInterval) : Int :=
  if interval.denominator ≤ interval.middle then
    (digitCount (interval.middle / interval.denominator) : Int) - 1
  else
    let inverse := (interval.denominator + interval.middle - 1) / interval.middle
    Int.negOfNat (digitCount (inverse - 1))

/-- The decimal of the grid `10 ^ power` just below the middle, or on it. -/
def floorAt (interval : RoundingInterval) (power : Int) : Decimal :=
  let scaled := interval.middle * Nat.pow 10 (-power).toNat
  ⟨scaled / (interval.denominator * Nat.pow 10 power.toNat), power⟩

/-- Whether the upper neighbour is nearer to the middle than the lower one; a tie
goes to the even one. -/
def prefersUpper (interval : RoundingInterval) (lower : Decimal) : Bool :=
  let middle := 2 * interval.middle * Nat.pow 10 (-lower.power).toNat
  let halfway := (2 * lower.digits + 1) * interval.denominator * Nat.pow 10 lower.power.toNat
  decide (halfway < middle) || (decide (halfway = middle) && decide (lower.digits % 2 = 1))

/-- The decimal of a grid that lies in the interval and is nearest to its middle. -/
def nearestAt? (interval : RoundingInterval) (power : Int) : Option Decimal :=
  let lower := interval.floorAt power
  let upper : Decimal := ⟨lower.digits + 1, power⟩
  match interval.contains lower, interval.contains upper with
  | true, true => some (if interval.prefersUpper lower then upper else lower)
  | true, false => some lower
  | false, true => some upper
  | false, false => none

end RoundingInterval

/-- A decimal with the fewest digits that is rounded to the double with this
significand and exponent.  Seventeen digits always suffice. -/
def Decimal.shortest (significand exponent : Nat) : Decimal :=
  let interval := RoundingInterval.around significand exponent
  let leading := interval.leadingPower
  let found := (List.range 17).findSome? fun (count : Nat) => interval.nearestAt? (leading - count)
  found.getD (interval.floorAt (leading - 16))

end OrderedChoice
