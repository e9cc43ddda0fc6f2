import OrderedChoice.Fault

/-!
# Results

A parser that returns has either matched a part of its input, with a value and the
rest, or failed with an error.  A failure has no rest.
-/

namespace OrderedChoice

/-- What a parser returns. -/
inductive Result (α : Type) where
  | success (value : α) (rest : Stream)
  | failure (error : ParseError)

namespace Result

variable {α β : Type}

/-- Whether the parser matched. -/
def isSuccess : Result α → Bool
  | .success _ _ => true
  | .failure _ => false

/-- The value of a success. -/
def value? : Result α → Option α
  | .success value _ => some value
  | .failure _ => none

/-- What a success leaves of the input. -/
def rest? : Result α → Option Stream
  | .success _ rest => some rest
  | .failure _ => none

/-- The error of a failure. -/
def error? : Result α → Option ParseError
  | .success _ _ => none
  | .failure error => some error

/-- The value of a success, or the given one. -/
def valueOr (default : α) : Result α → α
  | .success value _ => value
  | .failure _ => default

/-- Change the value of a success by a function that may fault. -/
def mapM (f : α → Except Fault β) : Result α → Except Fault (Result β)
  | .success value rest => return .success (← f value) rest
  | .failure error => return .failure error

/-- The value of a success; a failure turns into a fault without a position. -/
def unwrap : Result α → Except Fault α
  | .success value _ => return value
  | .failure error => throw (.parseFailed error none)

/-- Equality of results, part by part. -/
def equal : Result Value → Result Value → Bool
  | .success value rest, .success value₂ rest₂ =>
      value == value₂ && rest.toValue == rest₂.toValue
  | .failure error, .failure error₂ => error == error₂
  | _, _ => false

/-- The successes among results, in order. -/
def successes (results : List (Result α)) : List (Result α) := results.filter isSuccess

/-- The failures among results, in order. -/
def failures (results : List (Result α)) : List (Result α) := results.filter (!·.isSuccess)

end Result

end OrderedChoice
