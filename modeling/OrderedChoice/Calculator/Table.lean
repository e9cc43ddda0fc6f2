import OrderedChoice.Calculator

/-!
# A table of examples

Example expressions with their values, or with what went wrong.
-/

namespace OrderedChoice

namespace Calculator

/-- The expressions of the table. -/
def examples : List String :=
  ["2 + 3", "2 * 3", "2 + 3 * 4", "(2 + 3) * 4", "-2 + 3", "10 / 2 + 3", "10 / (2 - 2)", "2 +"]

/-- Fill a text up with spaces on its right. -/
def pad (width : Nat) (content : String) : String :=
  content ++ String.ofList (List.replicate (width - content.length) ' ')

/-- What the table says about the outcome of an expression. -/
def report (outcome : Except Halt Value) : String :=
  match outcome with
  | .ok value => value.shown
  | .error (.fault (.parseFailed error position)) => (Fault.parseFailed error position).message
  | .error (.fault cause) => "Runtime Error: " ++ cause.message
  | .error .exhausted => "exhausted"

/-- A line of the table. -/
def row (expression : String) : String :=
  pad 20 expression ++ " | " ++ report (evaluate (.text expression.toList) "").outcome

/-- The lines of the table. -/
def table : List String :=
  (pad 20 "Expression" ++ " | " ++ pad 10 "Result") ::
    String.ofList (List.replicate 35 '-') :: examples.map row

end Calculator

end OrderedChoice
