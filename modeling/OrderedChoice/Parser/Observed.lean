import OrderedChoice.Parser.Basic

/-!
# Observed parsers

An observed parser writes to the log when it starts and when it ends, and otherwise
behaves as if it were not observed.
-/

namespace OrderedChoice

namespace Parser

/-- The number of elements of the input that a record shows. -/
def previewLength : Nat := 30

/-- Write the input to the log and match nothing. -/
def note (verbosity : Verbosity) (label : String) : Parser Unit :=
  fun input => do
    let shortened := decide (previewLength < input.length)
    Run.note verbosity (.passing label (input.take previewLength) shortened)
    accept () input

/-- Write to the log when the parser starts, and when it matches or gives up.
`subject` is the parser's own description. -/
def observed (verbosity : Verbosity) (label subject : String) (parser : Parser Value) :
    Parser Value :=
  fun input => do
    Run.note verbosity (.trying label subject (input.take previewLength))
    match ← parser input with
    | .failure error => do
        Run.note verbosity (.backtracked label error)
        reject error
    | .success value rest => do
        Run.note verbosity (.matched label value rest.length)
        accept value rest

end Parser

end OrderedChoice
