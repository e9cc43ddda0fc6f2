import OrderedChoice.Fault

/-!
# Runs

Running a parser writes log records and then ends in one of three ways: with an
answer, with a fault, or by using up the bound that keeps a recursion without
progress from going on for ever.  The records written before a fault are kept.
-/

namespace OrderedChoice

/-- A line of the log.  `passing` shows the input where it is written; the other
three belong to an observed parser and say that it starts, matches or gives up. -/
inductive Record where
  | passing (label : String) (preview : Stream) (shortened : Bool)
  | trying (label subject : String) (preview : Stream)
  | matched (label : String) (value : Value) (left : Nat)
  | backtracked (label : String) (error : ParseError)

namespace Record

/-- The wording of a record. -/
def message : Record → String
  | .passing label preview shortened =>
      label ++ ": " ++ preview.toValue.written ++ (if shortened then "..." else "")
  | .trying label subject preview =>
      label ++ ": trying " ++ subject ++ " at " ++ preview.toValue.written
  | .matched label value left =>
      label ++ ": matched " ++ value.written ++ ", " ++ toString left ++ " left"
  | .backtracked label error => label ++ ": backtracked, " ++ error.text

end Record

/-- Which records are kept: all of them, or none, as every record is of the lowest
importance. -/
inductive Verbosity where
  | debug | warning
  deriving DecidableEq

/-- Why a run ended without an answer. -/
inductive Halt where
  | fault (fault : Fault)
  | exhausted

/-- The log of a computation and the way it ended. -/
structure Run (α : Type) where
  log : List Record
  outcome : Except Halt α

namespace Run

variable {α β : Type}

/-- An answer that writes nothing. -/
def answer (value : α) : Run α := ⟨[], .ok value⟩

/-- A fault that writes nothing. -/
def fault (cause : Fault) : Run α := ⟨[], .error (.fault cause)⟩

/-- The end of a run whose bound is used up. -/
def exhausted : Run α := ⟨[], .error .exhausted⟩

/-- Continue a run with its answer.  The logs follow each other, and a run without
an answer is not continued. -/
def andThen (run : Run α) (next : α → Run β) : Run β :=
  match run.outcome with
  | .ok value =>
      let later := next value
      ⟨run.log ++ later.log, later.outcome⟩
  | .error halt => ⟨run.log, .error halt⟩

instance : Monad Run where
  pure := answer
  bind := andThen

@[simp]
theorem outcome_answer (value : α) : (answer value).outcome = .ok value := rfl

@[simp]
theorem log_answer (value : α) : (answer value).log = [] := rfl

@[simp]
theorem outcome_pure (value : α) : (pure value : Run α).outcome = .ok value := rfl

/-- A run goes on with its answer and ends as its continuation does; without an answer it
ends at once. -/
theorem outcome_bind (run : Run α) (next : α → Run β) :
    (run >>= next).outcome =
      match run.outcome with
      | .ok value => (next value).outcome
      | .error halt => .error halt := by
  change (andThen run next).outcome = _
  unfold andThen
  cases run.outcome <;> rfl

/-- The log of a run is followed by the log of its continuation, when there is one. -/
theorem log_bind (run : Run α) (next : α → Run β) :
    (run >>= next).log =
      match run.outcome with
      | .ok value => run.log ++ (next value).log
      | .error _ => run.log := by
  change (andThen run next).log = _
  unfold andThen
  cases run.outcome <;> rfl

/-- The run of a callback. -/
def ofExcept : Except Fault α → Run α
  | .ok value => answer value
  | .error cause => fault cause

/-- Write a record where records are kept. -/
def note (verbosity : Verbosity) (record : Record) : Run Unit :=
  ⟨if verbosity = .debug then [record] else [], .ok ()⟩

end Run

end OrderedChoice
