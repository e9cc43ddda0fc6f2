/-!
# Doubles as exact numbers

A finite double is a whole number of times the smallest positive double,
`2 ^ -1074`.  Reading it that way makes comparison with integers and the search
for its shortest decimal exact, with no rounding on the way.
-/

namespace OrderedChoice

/-- What a double stands for.  A finite one has the magnitude
`significand * 2 ^ exponent`, counted in units of `2 ^ -1074`. -/
inductive Binary64 where
  | notANumber
  | infinite (negative : Bool)
  | finite (negative : Bool) (significand exponent : Nat)
  deriving DecidableEq

namespace Binary64

/-- Read the sign, the exponent field and the fraction field.  An exponent field
of zero marks the numbers without a hidden leading bit. -/
def ofFloat (number : Float) : Binary64 :=
  let bits := number.toBits.toNat
  let negative := decide (Nat.pow 2 63 ≤ bits)
  let field := bits / Nat.pow 2 52 % Nat.pow 2 11
  let fraction := bits % Nat.pow 2 52
  if field = 2047 then
    if fraction = 0 then .infinite negative else .notANumber
  else if field = 0 then .finite negative fraction 0
  else .finite negative (Nat.pow 2 52 + fraction) (field - 1)

/-- Whether the number is exactly the given integer. -/
def isInteger (number : Binary64) (integer : Int) : Bool :=
  match number with
  | .notANumber | .infinite _ => false
  | .finite negative significand exponent =>
      let magnitude : Int := Int.ofNat (significand * Nat.pow 2 exponent)
      decide ((if negative then -magnitude else magnitude) = integer * Int.ofNat (Nat.pow 2 1074))

end Binary64

end OrderedChoice
