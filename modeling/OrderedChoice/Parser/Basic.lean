import OrderedChoice.Result
import OrderedChoice.Run

/-!
# Parsers

A parser is a function from a stream to a run that returns a result.  The parsers
here read at most one element or one literal; the combinators run one or two other
parsers in order, each at the rest of the one before it or again at the same input.
-/

namespace OrderedChoice

/-- A parser whose successes carry values of type `α`. -/
def Parser (α : Type) : Type := Stream → Run (Result α)

namespace Parser

variable {α β : Type}

/-- The answer of a parser that matched. -/
def accept (value : α) (rest : Stream) : Run (Result α) := .answer (.success value rest)

/-- The answer of a parser that did not match. -/
def reject (error : ParseError) : Run (Result α) := .answer (.failure error)

/-- Run a parser and go on after a success.  A failure is passed on as it is. -/
def onSuccess (parser : Parser α) (next : α → Stream → Run (Result β)) : Parser β :=
  fun input => do
    match ← parser input with
    | .success value rest => next value rest
    | .failure error => reject error

/-- How a parser followed by another step ends, by the way the parser ends. -/
theorem outcome_onSuccess (parser : Parser α) (next : α → Stream → Run (Result β))
    (input : Stream) :
    (parser.onSuccess next input).outcome =
      match (parser input).outcome with
      | .ok (.success value rest) => (next value rest).outcome
      | .ok (.failure error) => .ok (.failure error)
      | .error halt => .error halt := by
  rw [onSuccess, Run.outcome_bind]
  cases (parser input).outcome with
  | error halt => rfl
  | ok result => cases result <;> rfl

/-- Match nothing and yield the value. -/
def pure (value : α) : Parser α := fun input => accept value input

/-- Fail with a message. -/
def fail (content : String) : Parser α :=
  fun input => reject (.message content (some input.length))

/-- Fault instead of returning. -/
def fault (cause : Fault) : Parser α := fun _ => .fault cause

/-- Match one element that `select` turns into a value.  An element for which it
yields nothing is rejected and shown by `display`. -/
def token (select : Value → Except Fault (Option α)) (expected : Value)
    (display : Value → String) : Parser α :=
  fun input => do
    match input.head? with
    | none => reject (.unexpected expected (.text "") (some 0))
    | some element =>
        match ← Run.ofExcept (select element) with
        | some value => accept value (input.drop 1)
        | none =>
            reject (.unexpected expected (.text (display element)) (some input.length))

/-- Match the elements of a literal, all or none, and yield them in the kind of the
input. -/
def tokens (literal : Stream) (expected : Value) (display : Value → String) : Parser Value :=
  fun input =>
    let found := (input.take literal.length).toValue
    if input.startsWith literal then accept found (input.drop literal.length)
    else
      let shown := if input.length = 0 then "" else display found
      reject (.unexpected expected (.text shown) (some input.length))

/-- Match only where no input is left. -/
def endOfInput : Parser Unit :=
  fun input =>
    match input.head? with
    | none => accept () input
    | some element =>
        reject (.unexpected (.text "end of input") (.text element.shown) (some input.length))

/-- Change the value of a match. -/
def map (f : α → β) (parser : Parser α) : Parser β :=
  parser.onSuccess fun value rest => accept (f value) rest

/-- Change the value of a match by a function that may fault. -/
def mapM (f : α → Except Fault β) (parser : Parser α) : Parser β :=
  parser.onSuccess fun value rest => do accept (← Run.ofExcept (f value)) rest

/-- Reject a match whose value has an error.  The error is located at the start of
the match, unless it is located already. -/
def filter (check : α → Except Fault (Option ParseError)) (parser : Parser α) : Parser α :=
  fun input =>
    parser.onSuccess (fun value rest => do
      match ← Run.ofExcept (check value) with
      | none => accept value rest
      | some error => reject (error.located input.length)) input

/-- Choose the parser that follows by the value of the first. -/
def bind (parser : Parser α) (next : α → Parser β) : Parser β :=
  parser.onSuccess next

/-- Match both in order and yield both values. -/
def both (first : Parser α) (second : Parser β) : Parser (α × β) :=
  first.onSuccess fun value => second.onSuccess fun other rest => accept (value, other) rest

/-- Match both in order and yield the second value. -/
def seqRight (first : Parser α) (second : Parser β) : Parser β :=
  first.onSuccess fun _ => second

/-- Match both in order and yield the first value. -/
def seqLeft (first : Parser α) (second : Parser β) : Parser α :=
  first.onSuccess fun value => second.onSuccess fun _ rest => accept value rest

/-- Match the first, or the second at the same input where the first fails. -/
def orElse (first second : Parser α) : Parser α :=
  fun input => do
    match ← first input with
    | .success value rest => accept value rest
    | .failure _ => second input

/-- Match without moving on. -/
def lookAhead (parser : Parser α) : Parser α :=
  fun input => parser.onSuccess (fun value _ => accept value input) input

/-- Match nothing, and only where the parser fails. -/
def notFollowedBy (display : α → String) (parser : Parser α) : Parser Unit :=
  fun input => do
    match ← parser input with
    | .success value _ =>
        reject (.message ("unexpected " ++ display value) (some input.length))
    | .failure _ => accept () input

end Parser

end OrderedChoice
