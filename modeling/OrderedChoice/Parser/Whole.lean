import OrderedChoice.Parser.Basic

/-!
# Parsing a whole input

An error knows how much input was left; together with the whole input this gives its
position.  Parsing a whole input insists that nothing is left behind, and turns every
failure into a fault.
-/

namespace OrderedChoice

/-- The position of an error in the input whose parse gave it. -/
def ParseError.position? (error : ParseError) (origin : Stream) (name : String) :
    Option Position :=
  error.remaining.map fun remaining => .ofOffset origin (origin.length - remaining) name

namespace Parser

variable {α : Type}

/-- The fault that reports an error at its position. -/
def failed (origin : Stream) (name : String) (error : ParseError) : Run α :=
  .fault (.parseFailed error (error.position? origin name))

/-- The value of a parse that matches the whole input. -/
def parseAll (parser : Parser α) (input : Stream) (name : String) : Run α := do
  match ← parser input with
  | .failure error => failed input name error
  | .success value rest =>
      match rest.head? with
      | none => return value
      | some element =>
          failed input name
            (.unexpected (.text "end of input") (.text element.shown) (some rest.length))

end Parser

end OrderedChoice
