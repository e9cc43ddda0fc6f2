import OrderedChoice.ParseError
import OrderedChoice.Position

/-!
# Faults

A fault ends a computation without a result.  It arises from a callback that
refuses its argument, from an operation on a value of the wrong kind, from a parser
that cannot be built, and from asking for a value where the parse failed.  A failed
parse by itself is no fault.
-/

namespace OrderedChoice

/-- The cause of a fault. -/
inductive Fault where
  | parseFailed (error : ParseError) (position : Option Position)
  | negativeCount (count : Value)
  | arityOutOfRange (arity : Int)
  | parserCount (arity given : Nat)
  | raised (reason : String)
  | divisionByZero
  | badValue (operation : String)
  | notJoinable (index : Nat) (item : Value)
  | lacksOperation (value : Value) (operation : String)
  | notCallable (value : Value)
  | notMatchable (value : Value)
  | textPatternOnBytes
  | bytesPatternOnText
  | malformedPattern
  | noLength (value : Value)
  | notACount (value : Value)
  | notOrdered (value : Value)
  | notConcatenable (first second : Value)
  | unknownRule (name : String)

namespace Fault

/-- The largest number of parsers that are combined into a flat sequence. -/
def largestArity : Nat := 10

/-- The wording of a fault. -/
def message : Fault → String
  | .parseFailed error none => "Parse error: " ++ error.text
  | .parseFailed error (some position) =>
      "Parse error at " ++ position.text ++ ": " ++ error.text
  | .negativeCount count => "exactly: count must not be negative, got " ++ count.shown
  | .arityOutOfRange arity =>
      "sequence arity must be between 2 and " ++ toString largestArity ++ ", got " ++ toString arity
  | .parserCount arity given =>
      "sequence" ++ toString arity ++ " takes " ++ toString arity ++ " parsers, got " ++
        toString given
  | .raised reason => reason
  | .divisionByZero => "Division by zero"
  | .badValue operation => operation ++ ": bad value"
  | .notJoinable index item =>
      "sequence item " ++ toString index ++ ": expected str instance, " ++ item.kindName ++ " found"
  | .lacksOperation value operation =>
      "'" ++ value.kindName ++ "' object has no attribute '" ++ operation ++ "'"
  | .notCallable value => "'" ++ value.kindName ++ "' object is not callable"
  | .notMatchable value =>
      "expected string or bytes-like object, got '" ++ value.kindName ++ "'"
  | .textPatternOnBytes => "cannot use a string pattern on a bytes-like object"
  | .bytesPatternOnText => "cannot use a bytes pattern on a string-like object"
  | .malformedPattern => "malformed pattern"
  | .noLength value => "object of type '" ++ value.kindName ++ "' has no len()"
  | .notACount value =>
      "'" ++ value.kindName ++ "' object cannot be interpreted as an integer"
  | .notOrdered value =>
      "'<' not supported between instances of '" ++ value.kindName ++ "' and 'int'"
  | .notConcatenable (.bytes _) second => "can't concat " ++ second.kindName ++ " to bytes"
  | .notConcatenable first second =>
      "can only concatenate " ++ first.kindName ++ " (not \"" ++ second.kindName ++ "\") to " ++
        first.kindName
  | .unknownRule name => Value.written (.text name)

end Fault

end OrderedChoice
