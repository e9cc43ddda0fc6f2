import OrderedChoice.Parser.Basic

/-!
# Parsers of other kinds

Parsers that no combinator builds: their rest need not be a part of their input, and
their errors need not say where they arose.
-/

namespace OrderedChoice

namespace Custom

/-- Succeed with a value and put elements in front of the input. -/
def push (value inserted : Value) : Parser Value :=
  fun input =>
    let extended := do
      let stream ← inserted.toStream?
      stream.append? input
    match extended with
    | some rest => Parser.accept value rest
    | none => .fault (.notConcatenable inserted input.toValue)

/-- Succeed in front of a cut, wherever it lies. -/
def cut (position : Int) : Parser Value :=
  fun input => Parser.accept (input.before position).toValue (input.after position)

/-- Fail with an error as it is. -/
def fail (error : ParseError) : Parser Value := fun _ => Parser.reject error

end Custom

end OrderedChoice
