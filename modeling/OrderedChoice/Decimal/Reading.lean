/-!
# Reading decimals

A decimal is read as the integer that its digits denote, scaled down by the number of
digits behind the separator, and rounded once to the nearest double.
-/

namespace OrderedChoice

namespace Decimal

/-- The number that digits denote in a base, the most significant first. -/
def ofDigits (base : Int) (digits : List Int) : Int :=
  digits.foldl (fun number digit => number * base + digit) 0

/-- The value of a letter or digit in bases up to thirty-six. -/
def digitValue (character : Char) : Int :=
  if character.isDigit then character.toNat - '0'.toNat
  else character.toLower.toNat - 'a'.toNat + 10

/-- Whether the characters are digits, or have digits on both sides of a point or a comma. -/
def isWritten (characters : List Char) : Bool :=
  !(characters.takeWhile Char.isDigit).isEmpty &&
    match characters.dropWhile Char.isDigit with
    | [] => true
    | separator :: places =>
        (separator == '.' || separator == ',') && !places.isEmpty && places.all Char.isDigit

/-- The double nearest to a written decimal, whose separator may be a point or a comma. -/
def read (characters : List Char) : Float :=
  let whole := characters.takeWhile Char.isDigit
  let places := (characters.dropWhile Char.isDigit).drop 1
  let digits := ofDigits 10 ((whole ++ places).map digitValue)
  Float.ofScientific digits.toNat true places.length

end Decimal

end OrderedChoice
