import OrderedChoice.Binary64
import OrderedChoice.Value

/-!
# Equality of values

Flags, integers and floating point numbers are compared as numbers, exactly and
across their kinds.  Text never equals bytes and a list never equals a tuple.
Sequences and tokens are compared part by part.  Operators are never equal, so the
relation is not reflexive on values that hold one, nor on values that hold a float
that is not a number.
-/

namespace OrderedChoice

namespace Value

/-- A number of any kind. -/
inductive Number where
  | exact (number : Int)
  | floating (number : Float)

/-- The number that a value is, flags counting as zero and one. -/
def number? : Value → Option Number
  | .bool flag => some (.exact (if flag then 1 else 0))
  | .int number => some (.exact number)
  | .float number => some (.floating number)
  | _ => none

/-- Numeric equality across the two representations. -/
def Number.equal : Number → Number → Bool
  | .exact first, .exact second => decide (first = second)
  | .floating first, .floating second => first == second
  | .exact integer, .floating number | .floating number, .exact integer =>
      (Binary64.ofFloat number).isInteger integer

mutual

/-- Whether two values count as the same. -/
def equal : Value → Value → Bool
  | .nothing, .nothing => true
  | .text first, .text second => decide (first = second)
  | .bytes first, .bytes second => decide (first = second)
  | .list first, .list second => equalItems first second
  | .tuple first, .tuple second => equalItems first second
  | .token kind content, .token otherKind otherContent =>
      decide (kind = otherKind) && equal content otherContent
  | first, second =>
      match number? first, number? second with
      | some number, some otherNumber => number.equal otherNumber
      | _, _ => false

/-- Whether two sequences have the same length and equal items. -/
def equalItems : List Value → List Value → Bool
  | [], [] => true
  | first :: firsts, second :: seconds => equal first second && equalItems firsts seconds
  | _, _ => false

end

instance : BEq Value := ⟨equal⟩

end Value

end OrderedChoice
