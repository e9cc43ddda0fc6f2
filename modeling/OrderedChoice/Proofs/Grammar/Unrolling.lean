import OrderedChoice.Proofs.Grammar.Sequence
import OrderedChoice.Proofs.Repetition
import OrderedChoice.Proofs.Stream.Rest

/-!
# A match in front of a repetition

A grammar that is matched once and then as often as possible reads what a repetition reads that
asks for a match.  The first match stands outside the loop, though, so nothing there insists that
it shortens the input.  If it does not, then the loop behind it starts at the same place and finds
the same match, so both forms fail there, and differ only in the combinator they name.
-/

namespace OrderedChoice

namespace Parser

variable {α : Type} {parser : Parser α} {input middle current : Stream} {first : α}
  {others : List α}

/-- A success that shortens nothing leaves the very same input. -/
def StaysPut (parser : Parser α) (input : Stream) : Prop :=
  ∀ value rest, parser.Succeeds input value rest → input.length ≤ rest.length → rest = input

/-- A place that a row reaches behind a first success is one that a row reaches. -/
theorem StaysPut.exists_advances (stays : parser.StaysPut input)
    (success : parser.Succeeds input first middle) (row : parser.Advances middle others current) :
    ∃ values, parser.Advances input values current := by
  by_cases shorter : middle.length < input.length
  · exact ⟨first :: others, .step success shorter row⟩
  · cases stays first middle success (Nat.le_of_not_lt shorter)
    exact ⟨others, row⟩

/-- A parser that fails in the end has not been in the same place twice. -/
theorem StaysPut.shorter {error : ParseError} (stays : parser.StaysPut input)
    (success : parser.Succeeds input first middle) (row : parser.Advances middle others current)
    (failure : parser.Fails current error) : middle.length < input.length := by
  refine Nat.lt_of_not_le ?_
  intro notShorter
  cases stays first middle success notShorter
  cases row with
  | stay => exact success.not_fails failure
  | step again shorter _ =>
      rcases success.unique again with ⟨_, rfl⟩
      exact Nat.lt_irrefl _ shorter

end Parser

namespace Grammar

variable {ν : Type} {verbosity : Verbosity} {rules : ν → Parser Value} {rounds : Nat}
  {first body : Grammar ν} {input rest : Stream} {value : Value} {error : ParseError} {halt : Halt}

/-! ## One match, then many -/

/-- Match the first grammar once and the other one as often as possible, and yield all values as
one list. -/
def oneThenMany (first body : Grammar ν) : Grammar ν := (first.both body.many).map prepend

/-- A repetition yields a list, so there is always one to put the first value in front of. -/
theorem parser_oneThenMany (first body : Grammar ν) :
    (oneThenMany first body).parser verbosity rules rounds =
      (first.parser verbosity rules rounds).onSuccess fun head middle =>
        Parser.onSuccess (Parser.repeated 0 "many" (body.parser verbosity rules rounds))
          (fun others rest => Parser.accept (.list (head :: others)) rest) middle := by
  have paired : (first.both body.many).parser verbosity rules rounds = _ :=
    Joint.parser_grammar .both first body.many verbosity rules rounds
  change Parser.onSuccess ((first.both body.many).parser verbosity rules rounds) _ = _
  rw [paired, Parser.onSuccess_assoc]
  congr 1
  funext head middle
  rw [Parser.onSuccess_assoc]
  exact congrFun (Parser.map_onSuccess _ _ _) middle

theorem succeeds_oneThenMany_iff :
    ((oneThenMany first body).parser verbosity rules rounds).Succeeds input value rest ↔
      ∃ head others middle, value = .list (head :: others) ∧
        (first.parser verbosity rules rounds).Succeeds input head middle ∧
        (body.parser verbosity rules rounds).Advances middle others rest ∧
        ∃ error, (body.parser verbosity rules rounds).Fails rest error := by
  rw [parser_oneThenMany, Parser.succeeds_onSuccess_iff]
  constructor
  · intro success
    rcases success with ⟨head, middle, matched, ended⟩
    rcases Parser.succeeds_onSuccess_iff.mp ended with ⟨others, final, repeated, joined⟩
    cases joined
    rcases Parser.succeeds_repeated_iff.mp repeated with ⟨_, row, failure⟩
    exact ⟨head, others, middle, rfl, matched, row, failure⟩
  · intro success
    rcases success with ⟨head, others, middle, rfl, matched, row, failure⟩
    exact ⟨head, middle, matched, Parser.succeeds_onSuccess_iff.mpr ⟨others, rest,
      Parser.succeeds_repeated_iff.mpr ⟨Nat.zero_le _, row, failure⟩, rfl⟩⟩

theorem fails_oneThenMany_iff :
    ((oneThenMany first body).parser verbosity rules rounds).Fails input error ↔
      (first.parser verbosity rules rounds).Fails input error ∨
        ∃ head middle others current,
          (first.parser verbosity rules rounds).Succeeds input head middle ∧
          (body.parser verbosity rules rounds).Advances middle others current ∧
          (body.parser verbosity rules rounds).Stalls current ∧
          error = .zeroWidth "many" (some current.length) := by
  rw [parser_oneThenMany, Parser.fails_onSuccess_iff]
  refine or_congr Iff.rfl ?_
  constructor
  · intro failure
    rcases failure with ⟨head, middle, matched, ended⟩
    rcases Parser.fails_onSuccess_iff.mp ended with failed | ⟨_, _, _, impossible⟩
    · rcases Parser.fails_repeated_iff.mp failed with ⟨_, _, _, short, _⟩ |
        ⟨others, current, row, stalls, same⟩
      · exact absurd short (Nat.not_lt_zero _)
      · exact ⟨head, middle, others, current, matched, row, stalls, same⟩
    · cases impossible
  · intro failure
    rcases failure with ⟨head, middle, others, current, matched, row, stalls, same⟩
    exact ⟨head, middle, matched, Parser.fails_onSuccess_iff.mpr (Or.inl
      (Parser.fails_repeated_iff.mpr (Or.inr ⟨others, current, row, stalls, same⟩)))⟩

theorem halts_oneThenMany_iff :
    ((oneThenMany first body).parser verbosity rules rounds input).outcome = .error halt ↔
      (first.parser verbosity rules rounds input).outcome = .error halt ∨
        ∃ head middle others current,
          (first.parser verbosity rules rounds).Succeeds input head middle ∧
          (body.parser verbosity rules rounds).Advances middle others current ∧
          (body.parser verbosity rules rounds current).outcome = .error halt := by
  rw [parser_oneThenMany, Parser.halts_onSuccess_iff]
  refine or_congr Iff.rfl ?_
  constructor
  · intro halted
    rcases halted with ⟨head, middle, matched, ended⟩
    rcases Parser.halts_onSuccess_iff.mp ended with halted | ⟨_, _, _, impossible⟩
    · rcases Parser.halts_repeated_iff.mp halted with ⟨others, current, row, halted⟩
      exact ⟨head, middle, others, current, matched, row, halted⟩
    · cases impossible
  · intro halted
    rcases halted with ⟨head, middle, others, current, matched, row, halted⟩
    exact ⟨head, middle, matched, Parser.halts_onSuccess_iff.mpr (Or.inl
      (Parser.halts_repeated_iff.mpr ⟨others, current, row, halted⟩))⟩

/-! ## The same grammar once and many times -/

section Unrolled

variable (stays : (body.parser verbosity rules rounds).StaysPut input)

include stays

theorem succeeds_atLeastOnce_iff_oneThenMany :
    (body.atLeastOnce.parser verbosity rules rounds).Succeeds input value rest ↔
      ((oneThenMany body body).parser verbosity rules rounds).Succeeds input value rest := by
  rw [succeeds_atLeastOnce_iff, succeeds_oneThenMany_iff]
  constructor
  · intro success
    rcases success with ⟨values, rfl, some, row, failure⟩
    cases row with
    | stay => exact absurd rfl some
    | step matched _ later => exact ⟨_, _, _, rfl, matched, later, failure⟩
  · intro success
    rcases success with ⟨head, others, middle, rfl, matched, row, cause, failure⟩
    have shorter := stays.shorter matched row failure
    exact ⟨head :: others, rfl, List.cons_ne_nil _ _, .step matched shorter row, cause, failure⟩

theorem halts_atLeastOnce_iff_oneThenMany :
    (body.atLeastOnce.parser verbosity rules rounds input).outcome = .error halt ↔
      ((oneThenMany body body).parser verbosity rules rounds input).outcome = .error halt := by
  rw [halts_atLeastOnce_iff, halts_oneThenMany_iff]
  constructor
  · intro halted
    rcases halted with ⟨values, current, row, halted⟩
    cases row with
    | stay => exact Or.inl halted
    | step matched _ later => exact Or.inr ⟨_, _, _, current, matched, later, halted⟩
  · intro halted
    rcases halted with halted | ⟨head, middle, others, current, matched, row, halted⟩
    · exact ⟨[], input, .stay input, halted⟩
    · rcases stays.exists_advances matched row with ⟨values, row⟩
      exact ⟨values, current, row, halted⟩

theorem fails_oneThenMany_self_iff :
    ((oneThenMany body body).parser verbosity rules rounds).Fails input error ↔
      (body.parser verbosity rules rounds).Fails input error ∨
        ∃ values current, (body.parser verbosity rules rounds).Advances input values current ∧
          (body.parser verbosity rules rounds).Stalls current ∧
          error = .zeroWidth "many" (some current.length) := by
  rw [fails_oneThenMany_iff]
  refine or_congr Iff.rfl ?_
  constructor
  · intro failure
    rcases failure with ⟨head, middle, others, current, matched, row, stalls, same⟩
    rcases stays.exists_advances matched row with ⟨values, row⟩
    exact ⟨values, current, row, stalls, same⟩
  · intro failure
    rcases failure with ⟨values, current, row, stalls, same⟩
    cases row with
    | step matched _ later => exact ⟨_, _, _, current, matched, later, stalls, same⟩
    | stay =>
        -- the first match leads back to the input, where the loop stalls again
        have stuck := stalls
        rcases stuck with ⟨head, middle, matched, notShorter⟩
        have back := stays head middle matched notShorter
        subst back
        exact ⟨head, middle, [], middle, matched, .stay middle, stalls, same⟩

theorem exists_fails_atLeastOnce_iff_oneThenMany :
    (∃ cause, (body.atLeastOnce.parser verbosity rules rounds).Fails input cause) ↔
      ∃ cause, ((oneThenMany body body).parser verbosity rules rounds).Fails input cause := by
  simp only [fails_atLeastOnce_iff, fails_oneThenMany_self_iff stays, exists_or]
  refine or_congr Iff.rfl ?_
  constructor <;>
  · intro failure
    rcases failure with ⟨_, values, current, row, stalls, _⟩
    exact ⟨_, values, current, row, stalls, rfl⟩

/-- Both forms report the error of a missing first match, and otherwise the same place. -/
theorem errors_of_atLeastOnce_and_oneThenMany {other : ParseError}
    (failure : (body.atLeastOnce.parser verbosity rules rounds).Fails input error)
    (otherFailure : ((oneThenMany body body).parser verbosity rules rounds).Fails input other) :
    (body.parser verbosity rules rounds).Fails input error ∧ other = error ∨
      ∃ left, error = .zeroWidth "at_least_once" left ∧ other = .zeroWidth "many" left := by
  rcases (fails_oneThenMany_self_iff stays).mp otherFailure with failed |
    ⟨values, current, row, stalls, rfl⟩
  · have loopFailed := fails_atLeastOnce_iff.mpr (Or.inl failed)
    cases failure.symm.trans loopFailed
    exact Or.inl ⟨failed, rfl⟩
  · have loopFailed := fails_atLeastOnce_iff.mpr (Or.inr ⟨values, current, row, stalls, rfl⟩)
    cases failure.symm.trans loopFailed
    exact Or.inr ⟨some current.length, rfl, rfl⟩

end Unrolled

end Grammar

end OrderedChoice
