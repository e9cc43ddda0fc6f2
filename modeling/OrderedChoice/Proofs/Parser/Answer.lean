import OrderedChoice.Proofs.Grammar.Ending
import OrderedChoice.Proofs.Parser.Composition

/-!
# Parsers that answer

A parser answers on an input when its run ends there with a success or a failure, and neither
in a fault nor for want of a larger bound.  To return is a property of runs that combinators
keep: a combinator answers where all the parts do that its run reaches, and a part which only
ever sees shorter inputs is asked for no more than those.
-/

namespace OrderedChoice

namespace Run

variable {α : Type}

/-- The run returns. -/
def Returns (run : Run α) : Prop := ∃ value, run.outcome = .ok value

theorem isCompositional_returns : IsCompositional Returns where
  answer value := ⟨value, rfl⟩
  bind returns nextReturns := by
    rcases returns with ⟨value, returned⟩
    rcases nextReturns value returned with ⟨result, ended⟩
    exact ⟨result, outcome_bind_eq_ok_iff.mpr ⟨value, returned, ended⟩⟩

theorem returns_ofExcept {callback : Except Fault α} (returned : ∃ value, callback = .ok value) :
    Returns (ofExcept callback) := by
  rcases returned with ⟨value, rfl⟩
  exact isCompositional_returns.answer value

end Run

namespace Parser

variable {α : Type} {parser : Parser α} {input : Stream}

/-- The run of the parser on the input ends with a result. -/
def Answers (parser : Parser α) (input : Stream) : Prop :=
  ∃ result, (parser input).outcome = .ok result

theorem Succeeds.answers {value : α} {rest : Stream}
    (success : parser.Succeeds input value rest) : parser.Answers input :=
  ⟨_, success⟩

theorem Fails.answers {error : ParseError} (failure : parser.Fails input error) :
    parser.Answers input :=
  ⟨_, failure⟩

/-- An answer is a success or a failure. -/
theorem Answers.cases (answers : parser.Answers input) :
    (∃ value rest, parser.Succeeds input value rest) ∨ ∃ error, parser.Fails input error := by
  rcases answers with ⟨result, ended⟩
  cases result with
  | success value rest => exact Or.inl ⟨value, rest, ended⟩
  | failure error => exact Or.inr ⟨error, ended⟩

theorem Answers.exists_fails_iff (answers : parser.Answers input) :
    (∃ error, parser.Fails input error) ↔ ¬ ∃ value rest, parser.Succeeds input value rest := by
  constructor
  · intro failure success
    rcases failure with ⟨error, failed⟩
    rcases success with ⟨value, rest, success⟩
    exact success.not_fails failed
  · intro none
    exact answers.cases.resolve_left none

theorem answers_of_not_halts (never : ∀ halt, (parser input).outcome ≠ .error halt) :
    parser.Answers input := by
  cases ended : (parser input).outcome with
  | ok result => exact ⟨result, ended⟩
  | error halt => exact absurd ended (never halt)

theorem Answers.not_halts {halt : Halt} (answers : parser.Answers input) :
    (parser input).outcome ≠ .error halt := by
  rcases answers with ⟨result, ended⟩
  rw [ended]
  exact nofun

theorem answers_token {select : Value → Except Fault (Option α)}
    (selects : ∀ element, ∃ selection, select element = .ok selection) (expected : Value)
    (display : Value → String) (input : Stream) :
    (token select expected display).Answers input :=
  Run.isCompositional_returns.token (fun element _ => Run.returns_ofExcept (selects element))
    expected display

end Parser

namespace Grammar

variable {ν : Type} {verbosity : Verbosity} {rules : ν → Parser Value} {rounds : Nat}
  {item separator : Grammar ν} {region : Stream → Prop} {input : Stream}

/-- Items with separators answer when both do wherever the reading may come to. -/
theorem answers_separated
    (itemAnswers : ∀ input, region input →
      (item.parser verbosity rules rounds).Answers input)
    (itemKeeps : (item.parser verbosity rules rounds).Keeps region)
    (separatorAnswers : ∀ input, region input →
      (separator.parser verbosity rules rounds).Answers input)
    (separatorKeeps : (separator.parser verbosity rules rounds).Keeps region)
    (member : region input) :
    ((item.separated separator).parser verbosity rules rounds).Answers input := by
  have composes := Run.isCompositional_returns
  have further : ∀ input, region input →
      ((separator.seqRight item).parser verbosity rules rounds).Answers input := by
    intro input member
    refine composes.seqRight (separatorAnswers input member) ?_
    intro value middle success
    exact itemAnswers middle (separatorKeeps input member value middle success)
  have pairs : ((item.both (separator.seqRight item).many).parser verbosity rules rounds).Answers
      input := by
    refine composes.map (composes.both (itemAnswers input member) ?_) _
    intro value middle success
    exact composes.map (composes.repeated further (separatorKeeps.seqRight itemKeeps) 0 "many"
      middle (itemKeeps input member value middle success)) _
  refine composes.orElse (composes.mapM pairs ?_) fun _ => composes.accept _ _
  intro value rest success
  rcases succeeds_both_iff.mp success with ⟨first, others, middle, rfl, _, repeated⟩
  rcases succeeds_many_iff.mp repeated with ⟨values, rfl, _⟩
  exact Run.returns_ofExcept ⟨_, rfl⟩

end Grammar

end OrderedChoice
