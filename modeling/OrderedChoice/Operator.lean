import OrderedChoice.Fault

/-!
# Applying operators

An operator chain applies the operators that its operator parser yields.  A value
that is no operator cannot be applied.
-/

namespace OrderedChoice

/-- Floating point arithmetic.  Division by a number equal to zero faults. -/
def Arithmetic.apply : Arithmetic → Float → Float → Except Fault Float
  | .add, first, second => return first + second
  | .subtract, first, second => return first - second
  | .multiply, first, second => return first * second
  | .divide, first, second =>
      if second == 0.0 then throw .divisionByZero else return first / second

namespace Operator

/-- The largest exponent that a power is computed for. -/
def largestExponent : Int := 64

/-- Apply an operator to its operands.  Division rounds down. -/
def apply (operator : Operator) (first second : Value) : Except Fault Value :=
  match operator, first, second with
  | .add, .int first, .int second => return .int (first + second)
  | .subtract, .int first, .int second => return .int (first - second)
  | .multiply, .int first, .int second => return .int (first * second)
  | .divide, .int first, .int second =>
      if second = 0 then throw .divisionByZero else return .int (first.fdiv second)
  | .power, .int first, .int second =>
      if 0 ≤ second ∧ second ≤ largestExponent then return .int (first.pow second.toNat)
      else throw (.badValue operator.name)
  | .pair, first, second => return .tuple [first, second]
  | .record, first, second => return .text ("(" ++ first.shown ++ " " ++ second.shown ++ ")")
  | .refuse, _, _ => throw (.raised operator.name)
  | .arithmetic operation, .float first, .float second =>
      return .float (← operation.apply first second)
  | operator, _, _ => throw (.badValue operator.name)

end Operator

/-- Apply a value as an operator. -/
def Value.apply (value first second : Value) : Except Fault Value :=
  match value with
  | .operator operation => operation.apply first second
  | value => throw (.notCallable value)

end OrderedChoice
