import OrderedChoice.Parser.Basic

/-!
# Repetition

A parser is run again at its own rest, a given number of times or as often as it
matches.  An unbounded repetition insists that every match shortens the input: a
match that does not would go on for ever, so it makes the repetition fail.  That is
also why the recursion ends.
-/

namespace OrderedChoice

namespace Parser

variable {α : Type}

/-- Match a given number of times. -/
def exactly (parser : Parser α) : Nat → Parser (List α)
  | 0 => pure []
  | count + 1 => parser.onSuccess fun value =>
      (exactly parser count).onSuccess fun values rest => accept (value :: values) rest

/-- Match as often as possible, and at least `least` times.  Where a match leaves no
less than it was given, the error names the combinator. -/
def repeated (least : Nat) (combinator : String) (parser : Parser α)
    (input : Stream) : Run (Result (List α)) := do
  match ← parser input with
  | .failure error => if least = 0 then accept [] input else reject error
  | .success value rest =>
      if rest.length < input.length then
        match ← repeated (least - 1) combinator parser rest with
        | .success values final => accept (value :: values) final
        | .failure error => reject error
      else
        reject (.zeroWidth combinator (some input.length))
termination_by input.length

end Parser

end OrderedChoice
