import OrderedChoice.Scanner.Number

/-!
# Transformations of values

Ready-made functions from the value of a match to another value.  Each refuses values
outside its domain under its own name.  Flags are no integers here.
-/

namespace OrderedChoice

/-- A function on values that may fault. -/
abbrev Transform : Type := Value → Except Fault Value

namespace Transform

/-- The value itself. -/
def identity : Transform := fun value => return value

/-- A list of the value alone. -/
def wrap : Transform := fun value => return .list [value]

/-- Always the same value. -/
def const (result : Value) : Transform := fun _ => return result

/-- The text of the value in messages. -/
def shown : Transform := fun value => return .text value.shown

/-- The written form of the value. -/
def written : Transform := fun value => return .text value.written

/-- The value twice. -/
def duplicate : Transform := fun value => return .tuple [value, value]

/-- Fault on every value. -/
def raise (reason : String) : Transform := fun _ => throw (.raised reason)

/-- The number of elements of a sequence. -/
def length : Transform := fun value =>
  match value.toStream? with
  | some stream => return .int stream.length
  | none => throw (.badValue "len")

/-- A sequence from its end to its beginning. -/
def reverse : Transform
  | .text content => return .text (String.ofList content.toList.reverse)
  | .bytes content => return .bytes content.reverse
  | .list items => return .list items.reverse
  | .tuple items => return .tuple items.reverse
  | _ => throw (.badValue "rev")

/-- The first item of a list or tuple. -/
def first : Transform
  | .list (item :: _) | .tuple (item :: _) => return item
  | _ => throw (.badValue "fst")

/-- The second item of a list or tuple. -/
def second : Transform
  | .list (_ :: item :: _) | .tuple (_ :: item :: _) => return item
  | _ => throw (.badValue "snd")

/-- The text that a list of texts makes. -/
def join (value : Value) : Except Fault Value :=
  (Scanner.join value).mapError fun _ => .badValue "join"

/-- The integer of the opposite sign. -/
def negate : Transform
  | .int number => return .int (-number)
  | _ => throw (.badValue "neg")

/-- An integer and a summand. -/
def add (summand : Int) : Transform
  | .int number => return .int (number + summand)
  | _ => throw (.badValue "add")

/-- An integer times a factor. -/
def multiply (factor : Int) : Transform
  | .int number => return .int (number * factor)
  | _ => throw (.badValue "mul")

/-- The number that a list of digits denotes in a base. -/
def build (base : Int) : Transform := Scanner.numeral base

/-- The kind of a token. -/
def tokenKind : Transform
  | .token kind _ => return .text kind
  | _ => throw (.badValue "field")

/-- The content of a token. -/
def tokenContent : Transform
  | .token _ content => return content
  | _ => throw (.badValue "field")

end Transform

/-- A check of a value, which yields the error of a value that is not wanted. -/
abbrev Check : Type := Value → Except Fault (Option ParseError)

namespace Check

/-- Every value passes. -/
def accept : Check := fun _ => return none

/-- No value passes. -/
def reject (error : ParseError) : Check := fun _ => return some error

/-- Values equal to the given one do not pass. -/
def rejectEqual (unwanted : Value) (error : ParseError) : Check :=
  fun value => return if value == unwanted then some error else none

/-- Even integers pass. -/
def even : Check
  | .int number =>
      return if number % 2 = 0 then none
        else some (.unexpected (.text "even digit") (.text (toString number)) none)
  | _ => throw (.badValue "even")

/-- Integers within bounds pass. -/
def inRange (low high : Int) (expected : String) : Check := Scanner.checkRange low high expected

/-- Fault on every value. -/
def raise (reason : String) : Check := fun _ => throw (.raised reason)

end Check

end OrderedChoice
