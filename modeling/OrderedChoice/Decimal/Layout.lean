import OrderedChoice.Decimal.Shortest

/-!
# Doubles as text

The shortest decimal is written positionally when its first digit stands between
the fourth place after the point and the sixteenth before it, and with an exponent
of at least two digits otherwise.  A whole number keeps one place after the point,
so that it does not read as an integer.
-/

namespace OrderedChoice

namespace Decimal

/-- The exponents of ten, from the first to before the last, that are written
positionally. -/
def positionalFrom : Int := -4

@[inherit_doc positionalFrom]
def positionalBefore : Int := 16

/-- Drop the zeros that end a digit sequence. -/
def withoutTrailingZeros (digits : List Char) : List Char :=
  (digits.reverse.dropWhile (· = '0')).reverse

/-- Digits with the point after the first `whole` of them, zeros filled in on
either side, and at least one place after the point. -/
def positional (digits : List Char) (whole : Int) : List Char :=
  if whole ≤ 0 then
    ['0', '.'] ++ List.replicate (-whole).toNat '0' ++ digits
  else
    let before := digits.take whole.toNat
    let after := digits.drop whole.toNat
    before ++ List.replicate (whole.toNat - before.length) '0' ++ '.' ::
      (if after.isEmpty then ['0'] else after)

/-- One digit before the point, and a signed exponent. -/
def scientific (digits : List Char) (exponent : Int) : List Char :=
  let mantissa := match digits with
    | [] => ['0']
    | [digit] => [digit]
    | digit :: more => digit :: '.' :: more
  let size := Nat.toDigits 10 exponent.natAbs
  mantissa ++ 'e' :: (if exponent < 0 then '-' else '+') ::
    (List.replicate (2 - size.length) '0' ++ size)

/-- The text of a positive decimal. -/
def layout (decimal : Decimal) : List Char :=
  let all := Nat.toDigits 10 decimal.digits
  let digits := withoutTrailingZeros all
  let exponent := decimal.power + all.length - 1
  if positionalFrom ≤ exponent ∧ exponent < positionalBefore then
    positional digits (exponent + 1)
  else
    scientific digits exponent

end Decimal

namespace Binary64

/-- The text of a double, with the sign of zero kept. -/
def text (number : Binary64) : String :=
  match number with
  | .notANumber => "nan"
  | .infinite negative => if negative then "-inf" else "inf"
  | .finite negative significand exponent =>
      let magnitude :=
        if significand = 0 then ['0', '.', '0']
        else (Decimal.shortest significand exponent).layout
      String.ofList (if negative then '-' :: magnitude else magnitude)

end Binary64

end OrderedChoice
