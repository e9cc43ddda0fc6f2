import OrderedChoice.Value.Equality
import OrderedChoice.Value.Shown

/-!
# Parse errors

A parse error says why a parser did not match and how many elements were left where
that happened, when this is known.  The remaining length turns into a position once
the whole input is at hand.
-/

namespace OrderedChoice

/-- The reason for a failed parse.  The first three arise in this library.  A bare
error carries nothing but its class, an unplaced one can never tell where it arose,
and a placed one can. -/
inductive ParseError where
  | unexpected (expected found : Value) (remaining : Option Int)
  | message (content : String) (remaining : Option Int)
  | zeroWidth (combinator : String) (remaining : Option Int)
  | bare (className : String)
  | unplaced (code : String)
  | placed (code : String) (remaining : Option Int)

namespace ParseError

/-- How much input was left where the error arose. -/
def remaining : ParseError → Option Int
  | .unexpected _ _ remaining | .message _ remaining | .zeroWidth _ remaining
  | .placed _ remaining => remaining
  | .bare _ | .unplaced _ => none

/-- Whether the error can be given a location and has none yet. -/
def lacksLocation : ParseError → Bool
  | .unexpected _ _ remaining | .message _ remaining | .zeroWidth _ remaining
  | .placed _ remaining => remaining.isNone
  | .bare _ | .unplaced _ => false

/-- Fill in the location of an error that lacks one, and keep any other as it is. -/
def located (error : ParseError) (length : Int) : ParseError :=
  match error with
  | .unexpected expected found none => .unexpected expected found (some length)
  | .message content none => .message content (some length)
  | .zeroWidth combinator none => .zeroWidth combinator (some length)
  | .placed code none => .placed code (some length)
  | located => located

/-- The wording of an error.  A found value that is empty stands for the end of the
input. -/
def text : ParseError → String
  | .unexpected expected found _ =>
      "expected " ++ expected.shown ++ ", got " ++
        (if found.isEmpty then "end of input" else found.shown)
  | .message content _ => content
  | .zeroWidth combinator _ =>
      combinator ++ ": applied parser succeeded without consuming input"
  | .bare className => className
  | .unplaced code => "no-pos " ++ code
  | .placed code _ => "with-pos " ++ code

/-- Two errors are equal when they have the same reason and the same parts.  Bare
errors have no parts to compare, and two of them count as different. -/
def equal : ParseError → ParseError → Bool
  | .unexpected expected found remaining, .unexpected expected₂ found₂ remaining₂ =>
      expected == expected₂ && found == found₂ && decide (remaining = remaining₂)
  | .message content remaining, .message content₂ remaining₂ =>
      decide (content = content₂) && decide (remaining = remaining₂)
  | .zeroWidth combinator remaining, .zeroWidth combinator₂ remaining₂ =>
      decide (combinator = combinator₂) && decide (remaining = remaining₂)
  | .unplaced code, .unplaced code₂ => decide (code = code₂)
  | .placed code remaining, .placed code₂ remaining₂ =>
      decide (code = code₂) && decide (remaining = remaining₂)
  | _, _ => false

instance : BEq ParseError := ⟨equal⟩

end ParseError

end OrderedChoice
