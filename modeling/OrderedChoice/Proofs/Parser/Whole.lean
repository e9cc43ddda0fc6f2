import OrderedChoice.Parser.Whole
import OrderedChoice.Proofs.Parser.Ending

/-!
# How parsing a whole input ends

Parsing a whole input has two ways to report a failed parse: with the parser's own error,
or with an error about what the parser has left.  A fault of the parser itself goes through
as it is.
-/

namespace OrderedChoice

namespace Parser

variable {α : Type} {parser : Parser α} {input : Stream} {name : String} {cause : Fault}

/-- The error about an element that is left where no input should be. -/
def leftover (element : Value) (rest : Stream) : ParseError :=
  .unexpected (.text "end of input") (.text element.shown) (some rest.length)

/-- The value of a match that leaves nothing is all that parsing a whole input returns. -/
theorem returns_parseAll_iff {value : α} :
    (parser.parseAll input name).outcome = .ok value ↔
      ∃ rest, parser.Succeeds input value rest ∧ rest.head? = none := by
  unfold parseAll
  rw [Run.outcome_bind_eq_ok_iff]
  constructor
  · intro ended
    rcases ended with ⟨result, started, ended⟩
    cases result with
    | failure error => cases ended
    | success found rest =>
        cases head : rest.head? with
        | some element =>
            simp only [head, failed, Run.fault, reduceCtorEq] at ended
        | none =>
            simp only [head, Run.outcome_pure, Except.ok.injEq] at ended
            exact ⟨rest, ended ▸ started, head⟩
  · intro ended
    rcases ended with ⟨rest, started, head⟩
    refine ⟨.success value rest, started, ?_⟩
    simp only [head, Run.outcome_pure]

theorem raises_parseAll_iff :
    (parser.parseAll input name).outcome = .error (.fault cause) ↔
      (parser input).outcome = .error (.fault cause) ∨
      (∃ error, parser.Fails input error ∧
        cause = .parseFailed error (error.position? input name)) ∨
      ∃ value rest element, parser.Succeeds input value rest ∧ rest.head? = some element ∧
        cause = .parseFailed (leftover element rest)
          ((leftover element rest).position? input name) := by
  unfold parseAll Fails Succeeds
  rw [Run.outcome_bind]
  cases (parser input).outcome with
  | error halt =>
      simp only [Except.error.injEq, reduceCtorEq, false_and, exists_false, or_false]
  | ok result =>
      cases result with
      | failure error =>
          simp only [failed, Run.fault, Except.error.injEq, Halt.fault.injEq, Except.ok.injEq,
            Result.failure.injEq, reduceCtorEq, false_and, exists_false, or_false, false_or,
            exists_eq_left', eq_comm]
      | success value rest =>
          simp only [reduceCtorEq, Except.ok.injEq, Result.success.injEq, false_and, exists_false,
            false_or]
          constructor
          · intro ended
            cases head : rest.head? with
            | none =>
                rw [head] at ended
                cases ended
            | some element =>
                rw [head] at ended
                cases ended
                exact ⟨value, rest, element, ⟨rfl, rfl⟩, head, rfl⟩
          · intro ended
            rcases ended with ⟨_, _, element, ⟨rfl, rfl⟩, head, rfl⟩
            rw [head]
            rfl

end Parser

end OrderedChoice
