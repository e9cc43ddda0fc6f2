import OrderedChoice.Grammar.Derived
import OrderedChoice.Proofs.Parser.Ending

/-!
# What a repetition matches

An unbounded repetition goes through a row of successes that each shorten the input, and
it stops at the first remainder where its parser fails, stalls or does not return.  Such a
row is described here without the loop.  Every input has exactly one row that cannot be
prolonged, and the way in which it stops decides how the repetition ends.
-/

namespace OrderedChoice

namespace Parser

variable {α : Type} {parser : Parser α} {least : Nat} {combinator : String}
  {input current rest : Stream} {values : List α} {error : ParseError}

/-- The parser succeeds once for each value, every time on what the time before has left,
and each success leaves less than it was given. -/
inductive Advances (parser : Parser α) : Stream → List α → Stream → Prop where
  | stay (input : Stream) : Advances parser input [] input
  | step {input middle rest : Stream} {value : α} {values : List α}
      (success : parser.Succeeds input value middle) (shorter : middle.length < input.length)
      (later : Advances parser middle values rest) : Advances parser input (value :: values) rest

/-- The parser succeeds and leaves no less than it was given. -/
def Stalls (parser : Parser α) (input : Stream) : Prop :=
  ∃ value rest, parser.Succeeds input value rest ∧ input.length ≤ rest.length

theorem Advances.rest_eq_of_nil (row : parser.Advances input [] rest) : rest = input := by
  cases row
  rfl

/-! ## A given number of times -/

theorem succeeds_exactly_zero_iff :
    (parser.exactly 0).Succeeds input values rest ↔ values = [] ∧ rest = input :=
  succeeds_pure_iff

theorem succeeds_exactly_succ_iff {count : Nat} :
    (parser.exactly (count + 1)).Succeeds input values rest ↔
      ∃ value more middle, values = value :: more ∧ parser.Succeeds input value middle ∧
        (parser.exactly count).Succeeds middle more rest := by
  refine succeeds_onSuccess_iff.trans ?_
  constructor
  · intro ended
    rcases ended with ⟨value, middle, started, ended⟩
    rcases succeeds_onSuccess_iff.mp ended with ⟨more, final, followed, kept⟩
    simp only [outcome_accept, Except.ok.injEq, Result.success.injEq] at kept
    rcases kept with ⟨rfl, rfl⟩
    exact ⟨value, more, middle, rfl, started, followed⟩
  · intro ended
    rcases ended with ⟨value, more, middle, rfl, started, followed⟩
    exact ⟨value, middle, started, succeeds_onSuccess_iff.mpr ⟨more, rest, followed, rfl⟩⟩

theorem fails_exactly_succ_iff {count : Nat} :
    (parser.exactly (count + 1)).Fails input error ↔
      parser.Fails input error ∨
        ∃ value middle, parser.Succeeds input value middle ∧
          (parser.exactly count).Fails middle error := by
  refine fails_onSuccess_iff.trans (or_congr Iff.rfl (exists_congr fun value =>
    exists_congr fun middle => and_congr Iff.rfl (fails_onSuccess_iff.trans ?_)))
  simp only [outcome_accept, Except.ok.injEq, reduceCtorEq, and_false, exists_false, or_false]

/-- A row of shortening successes is what a repetition of just that length matches. -/
theorem Advances.exactly (row : parser.Advances input values rest) :
    (parser.exactly values.length).Succeeds input values rest := by
  induction row with
  | stay input => exact succeeds_exactly_zero_iff.mpr ⟨rfl, rfl⟩
  | step success _ _ later =>
      exact succeeds_exactly_succ_iff.mpr ⟨_, _, _, rfl, success, later⟩

/-! ## As often as possible -/

/-- The outcome of a repetition that has already matched some values. -/
def behind (values : List α) : Result (List α) → Result (List α)
  | .success more rest => .success (values ++ more) rest
  | .failure error => .failure error

theorem map_behind_nil (outcome : Except Halt (Result (List α))) :
    outcome.map (behind []) = outcome := by
  cases outcome with
  | error halt => rfl
  | ok result => cases result <;> rfl

theorem map_behind_cons (value : α) (values : List α) (outcome : Except Halt (Result (List α))) :
    (outcome.map (behind values)).map (behind [value]) =
      outcome.map (behind (value :: values)) := by
  cases outcome with
  | error halt => rfl
  | ok result => cases result <;> rfl

/-- One round of the loop. -/
theorem outcome_repeated (least : Nat) (combinator : String) (parser : Parser α)
    (input : Stream) :
    (repeated least combinator parser input).outcome =
      match (parser input).outcome with
      | .error halt => .error halt
      | .ok (.failure error) =>
          .ok (if least = 0 then .success [] input else .failure error)
      | .ok (.success value rest) =>
          if rest.length < input.length then
            (repeated (least - 1) combinator parser rest).outcome.map (behind [value])
          else .ok (.failure (.zeroWidth combinator (some input.length))) := by
  rw [repeated, Run.outcome_bind]
  cases (parser input).outcome with
  | error halt => rfl
  | ok result =>
      cases result with
      | failure error =>
          by_cases none : least = 0
          · simp only [if_pos none, outcome_accept]
          · simp only [if_neg none, outcome_reject]
      | success value rest =>
          by_cases shorter : rest.length < input.length
          · simp only [if_pos shorter, Run.outcome_bind]
            cases (repeated (least - 1) combinator parser rest).outcome with
            | error halt => rfl
            | ok later => cases later <;> rfl
          · simp only [if_neg shorter, outcome_reject]

/-- A repetition ends as it does from anywhere further down its row. -/
theorem Advances.outcome_repeated (row : parser.Advances input values rest) (least : Nat)
    (combinator : String) :
    (repeated least combinator parser input).outcome =
      (repeated (least - values.length) combinator parser rest).outcome.map (behind values) := by
  induction row generalizing least with
  | stay input => rw [map_behind_nil, List.length_nil, Nat.sub_zero]
  | step success shorter _ later =>
      rw [Parser.outcome_repeated, success]
      simp only [if_pos shorter, later, map_behind_cons, List.length_cons, Nat.sub_sub,
        Nat.add_comm 1]

/-- Every input has a row that leads to a place where the parser cannot advance. -/
theorem exists_advances_to_end (parser : Parser α) (input : Stream) :
    ∃ values current, parser.Advances input values current ∧
      ((∃ error, parser.Fails current error) ∨ parser.Stalls current ∨
        ∃ halt, (parser current).outcome = .error halt) := by
  cases ended : (parser input).outcome with
  | error halt => exact ⟨[], input, .stay input, Or.inr (Or.inr ⟨halt, ended⟩)⟩
  | ok result =>
      cases result with
      | failure error => exact ⟨[], input, .stay input, Or.inl ⟨error, ended⟩⟩
      | success value rest =>
          by_cases shorter : rest.length < input.length
          · rcases exists_advances_to_end parser rest with ⟨values, current, row, stops⟩
            exact ⟨value :: values, current, .step ended shorter row, stops⟩
          · have stalls : parser.Stalls input := ⟨value, rest, ended, Nat.le_of_not_lt shorter⟩
            exact ⟨[], input, .stay input, Or.inr (Or.inl stalls)⟩
termination_by input.length

theorem Advances.outcome_of_fails (row : parser.Advances input values rest) (least : Nat)
    (combinator : String) (failure : parser.Fails rest error) :
    (repeated least combinator parser input).outcome =
      .ok (if least ≤ values.length then .success values rest else .failure error) := by
  rw [row.outcome_repeated, Parser.outcome_repeated, failure]
  by_cases enough : least ≤ values.length
  · simp only [Nat.sub_eq_zero_of_le enough, if_pos enough, if_true, Except.map, behind,
      List.append_nil]
  · simp only [if_neg enough, Nat.sub_eq_zero_iff_le, Except.map, behind]

theorem Advances.outcome_of_stalls (row : parser.Advances input values rest) (least : Nat)
    (combinator : String) (stalls : parser.Stalls rest) :
    (repeated least combinator parser input).outcome =
      .ok (.failure (.zeroWidth combinator (some rest.length))) := by
  rcases stalls with ⟨value, final, success, notShorter⟩
  rw [row.outcome_repeated, Parser.outcome_repeated, success]
  simp only [if_neg (Nat.not_lt_of_le notShorter), Except.map, behind]

theorem Advances.outcome_of_halts {halt : Halt} (row : parser.Advances input values rest)
    (least : Nat) (combinator : String) (halts : (parser rest).outcome = .error halt) :
    (repeated least combinator parser input).outcome = .error halt := by
  rw [row.outcome_repeated, Parser.outcome_repeated, halts]
  rfl

/-- A repetition succeeds exactly at the end of a row that is long enough and that the
parser ends by failing. -/
theorem succeeds_repeated_iff :
    Succeeds (repeated least combinator parser) input values rest ↔
      least ≤ values.length ∧ parser.Advances input values rest ∧
        ∃ error, parser.Fails rest error := by
  constructor
  · intro success
    rcases exists_advances_to_end parser input with ⟨found, current, row, stops⟩
    rcases stops with ⟨error, failure⟩ | stalls | ⟨halt, halts⟩
    · have ended := success.symm.trans (row.outcome_of_fails least combinator failure)
      by_cases enough : least ≤ found.length
      · simp only [if_pos enough, Except.ok.injEq, Result.success.injEq] at ended
        rcases ended with ⟨rfl, rfl⟩
        exact ⟨enough, row, error, failure⟩
      · simp only [if_neg enough, Except.ok.injEq, reduceCtorEq] at ended
    · have ended := success.symm.trans (row.outcome_of_stalls least combinator stalls)
      simp only [Except.ok.injEq, reduceCtorEq] at ended
    · have ended := success.symm.trans (row.outcome_of_halts least combinator halts)
      simp only [reduceCtorEq] at ended
  · intro ended
    rcases ended with ⟨enough, row, error, failure⟩
    have ended := row.outcome_of_fails least combinator failure
    rwa [if_pos enough] at ended

/-- A repetition fails with its parser's own error where the row is too short, and with the
combinator's error where the parser stalls. -/
theorem fails_repeated_iff :
    Fails (repeated least combinator parser) input error ↔
      (∃ values current, parser.Advances input values current ∧ values.length < least ∧
        parser.Fails current error) ∨
      ∃ values current, parser.Advances input values current ∧ parser.Stalls current ∧
        error = .zeroWidth combinator (some current.length) := by
  constructor
  · intro failed
    rcases exists_advances_to_end parser input with ⟨values, current, row, stops⟩
    rcases stops with ⟨cause, failure⟩ | stalls | ⟨halt, halts⟩
    · have ended := failed.symm.trans (row.outcome_of_fails least combinator failure)
      by_cases enough : least ≤ values.length
      · simp only [if_pos enough, Except.ok.injEq, reduceCtorEq] at ended
      · simp only [if_neg enough, Except.ok.injEq, Result.failure.injEq] at ended
        exact Or.inl ⟨values, current, row, Nat.lt_of_not_le enough, ended ▸ failure⟩
    · have ended := failed.symm.trans (row.outcome_of_stalls least combinator stalls)
      simp only [Except.ok.injEq, Result.failure.injEq] at ended
      exact Or.inr ⟨values, current, row, stalls, ended⟩
    · have ended := failed.symm.trans (row.outcome_of_halts least combinator halts)
      simp only [reduceCtorEq] at ended
  · intro ended
    rcases ended with ⟨values, current, row, short, failure⟩ | ⟨values, current, row, stalls, rfl⟩
    · have ended := row.outcome_of_fails least combinator failure
      rwa [if_neg (Nat.not_le_of_lt short)] at ended
    · exact row.outcome_of_stalls least combinator stalls

/-- A repetition does not return exactly where its row reaches a place at which the parser
does not return. -/
theorem halts_repeated_iff {halt : Halt} :
    (repeated least combinator parser input).outcome = .error halt ↔
      ∃ values current, parser.Advances input values current ∧
        (parser current).outcome = .error halt := by
  constructor
  · intro halted
    rcases exists_advances_to_end parser input with ⟨values, current, row, stops⟩
    rcases stops with ⟨cause, failure⟩ | stalls | ⟨found, halts⟩
    · have ended := halted.symm.trans (row.outcome_of_fails least combinator failure)
      simp only [reduceCtorEq] at ended
    · have ended := halted.symm.trans (row.outcome_of_stalls least combinator stalls)
      simp only [reduceCtorEq] at ended
    · have ended := halted.symm.trans (row.outcome_of_halts least combinator halts)
      simp only [Except.error.injEq] at ended
      exact ⟨values, current, row, ended ▸ halts⟩
  · intro ended
    rcases ended with ⟨values, current, row, halts⟩
    exact row.outcome_of_halts least combinator halts

/-! ## How often the parser is called -/

/-- Parsers that end alike are repeated alike. -/
theorem outcome_repeated_congr {other : Parser α}
    (same : ∀ input, (parser input).outcome = (other input).outcome) (least : Nat)
    (combinator : String) (input : Stream) :
    (repeated least combinator parser input).outcome =
      (repeated least combinator other input).outcome := by
  rw [outcome_repeated, outcome_repeated, same input]
  cases (other input).outcome with
  | error halt => rfl
  | ok result =>
      cases result with
      | failure error => rfl
      | success value rest =>
          by_cases shorter : rest.length < input.length
          · simp only [if_pos shorter]
            rw [outcome_repeated_congr same (least - 1) combinator rest]
          · simp only [if_neg shorter]
termination_by input.length

/-- The parser that ends as the given one does and writes one record for each call, which
keeps the input of the call, and none besides. -/
def counted (parser : Parser α) : Parser α :=
  fun input => ⟨[.passing "" input false], (parser input).outcome⟩

theorem outcome_counted (parser : Parser α) (input : Stream) :
    (parser.counted input).outcome = (parser input).outcome := rfl

/-- Every call but the last one shortens the input, so the calls are at most as many as
there are elements, and one more. -/
theorem length_log_repeated_counted (least : Nat) (combinator : String) (parser : Parser α)
    (input : Stream) :
    (repeated least combinator parser.counted input).log.length ≤ input.length + 1 := by
  rw [repeated, Run.log_bind]
  cases called : (parser.counted input).outcome with
  | error halt => exact Nat.le_add_left _ _
  | ok result =>
      cases result with
      | failure error =>
          by_cases none : least = 0
          · simp only [if_pos none]
            exact Nat.le_add_left _ _
          · simp only [if_neg none]
            exact Nat.le_add_left _ _
      | success value rest =>
          by_cases shorter : rest.length < input.length
          · simp only [if_pos shorter]
            have later := length_log_repeated_counted (least - 1) combinator parser rest
            have one : (parser.counted input).log.length = 1 := rfl
            rw [Run.log_bind_of_silent, List.length_append]
            · omega
            · intro result
              cases result <;> rfl
          · simp only [if_neg shorter]
            exact Nat.le_add_left _ _
termination_by input.length

end Parser

/-! ## Repetition in grammars -/

namespace Grammar

variable {ν : Type} {verbosity : Verbosity} {rules : ν → Parser Value} {rounds : Nat}
  {body : Grammar ν} {input rest : Stream} {value : Value} {values : List Value}
  {error : ParseError}

theorem succeeds_exactly_of_advances
    (row : (body.parser verbosity rules rounds).Advances input values rest) :
    ((exactly values.length body).parser verbosity rules rounds).Succeeds input
      (.list values) rest :=
  Parser.succeeds_map_iff.mpr ⟨values, row.exactly, rfl⟩

theorem succeeds_many_iff :
    (body.many.parser verbosity rules rounds).Succeeds input value rest ↔
      ∃ values, value = .list values ∧
        (body.parser verbosity rules rounds).Advances input values rest ∧
        ∃ error, (body.parser verbosity rules rounds).Fails rest error := by
  refine Parser.succeeds_map_iff.trans (exists_congr fun values => ?_)
  rw [Parser.succeeds_repeated_iff]
  simp only [Nat.zero_le, true_and, eq_comm, and_comm]

theorem fails_many_iff :
    (body.many.parser verbosity rules rounds).Fails input error ↔
      ∃ values current, (body.parser verbosity rules rounds).Advances input values current ∧
        (body.parser verbosity rules rounds).Stalls current ∧
        error = .zeroWidth "many" (some current.length) := by
  refine Parser.fails_map_iff.trans (Parser.fails_repeated_iff.trans ?_)
  simp only [Nat.not_lt_zero, false_and, and_false, exists_false, false_or]

theorem succeeds_atLeastOnce_iff :
    (body.atLeastOnce.parser verbosity rules rounds).Succeeds input value rest ↔
      ∃ values, value = .list values ∧ values ≠ [] ∧
        (body.parser verbosity rules rounds).Advances input values rest ∧
        ∃ error, (body.parser verbosity rules rounds).Fails rest error := by
  refine Parser.succeeds_map_iff.trans (exists_congr fun values => ?_)
  rw [Parser.succeeds_repeated_iff, Nat.one_le_iff_ne_zero, Ne, List.length_eq_zero_iff]
  constructor
  · intro ended
    rcases ended with ⟨ended, same⟩
    exact ⟨same.symm, ended⟩
  · intro ended
    rcases ended with ⟨same, ended⟩
    exact ⟨ended, same.symm⟩

theorem fails_atLeastOnce_iff :
    (body.atLeastOnce.parser verbosity rules rounds).Fails input error ↔
      (body.parser verbosity rules rounds).Fails input error ∨
        ∃ values current, (body.parser verbosity rules rounds).Advances input values current ∧
          (body.parser verbosity rules rounds).Stalls current ∧
          error = .zeroWidth "at_least_once" (some current.length) := by
  refine Parser.fails_map_iff.trans (Parser.fails_repeated_iff.trans (or_congr ?_ Iff.rfl))
  constructor
  · intro ended
    rcases ended with ⟨values, current, row, short, failure⟩
    cases row with
    | stay => exact failure
    | step => exact absurd short (by simp only [List.length_cons, Nat.not_lt, Nat.le_add_left])
  · intro failure
    exact ⟨[], input, .stay input, Nat.one_pos, failure⟩

theorem halts_many_iff {halt : Halt} :
    (body.many.parser verbosity rules rounds input).outcome = .error halt ↔
      ∃ values current, (body.parser verbosity rules rounds).Advances input values current ∧
        (body.parser verbosity rules rounds current).outcome = .error halt :=
  Parser.halts_map_iff.trans Parser.halts_repeated_iff

theorem halts_atLeastOnce_iff {halt : Halt} :
    (body.atLeastOnce.parser verbosity rules rounds input).outcome = .error halt ↔
      ∃ values current, (body.parser verbosity rules rounds).Advances input values current ∧
        (body.parser verbosity rules rounds current).outcome = .error halt :=
  Parser.halts_map_iff.trans Parser.halts_repeated_iff

/-- Counting the calls of a repeated parser does not change how the repetition ends, and it
counts no more of them than the input has elements, and one. -/
theorem length_log_repeated_custom_counted (least : Nat) (combinator : String)
    (parser : Parser Value) (input : Stream) :
    ((repeated least combinator (.custom none parser.counted)).parser verbosity rules rounds
        input).outcome =
      ((repeated least combinator (.custom none parser)).parser verbosity rules rounds
        input).outcome ∧
    ((repeated least combinator (.custom none parser.counted)).parser verbosity rules rounds
        input).log.length ≤ input.length + 1 := by
  constructor
  · exact Parser.outcome_map_congr
      (Parser.outcome_repeated_congr (Parser.outcome_counted parser) least combinator input)
  · refine Nat.le_trans (Nat.le_of_eq (congrArg List.length (Parser.log_map _ _ _))) ?_
    exact Parser.length_log_repeated_counted least combinator parser input

/-- What repetition means, for any body whatsoever.  A repetition succeeds with the values
of a row of shortening successes, which as many repetitions of a given number also match,
and the body fails behind them.  It fails where such a row ends in a success that shortens
nothing, and then with an error that stands there, or, when one value is required, where
the body fails at once, and then with the error of the body.  It does not return exactly
where the body does not.  However it ends, the body is called at most once for each
element of the input, and once more. -/
theorem repetition_specification (verbosity : Verbosity) (rules : ν → Parser Value)
    (rounds : Nat) (body : Grammar ν) (input : Stream) :
    let meaning := Grammar.parser verbosity rules rounds
    let parser := meaning body
    let counted := (custom none parser.counted : Grammar ν)
    ((∀ value rest, (meaning body.many).Succeeds input value rest ↔
        ∃ values, value = .list values ∧
          (meaning (exactly values.length body)).Succeeds input value rest ∧
          parser.Advances input values rest ∧ ∃ error, parser.Fails rest error) ∧
      (∀ error, (meaning body.many).Fails input error ↔
        ∃ values current, parser.Advances input values current ∧ parser.Stalls current ∧
          error = .zeroWidth "many" (some current.length)) ∧
      (∀ halt, (meaning body.many input).outcome = .error halt ↔
        ∃ values current, parser.Advances input values current ∧
          (parser current).outcome = .error halt)) ∧
    ((∀ value rest, (meaning body.atLeastOnce).Succeeds input value rest ↔
        ∃ values, value = .list values ∧ values ≠ [] ∧
          (meaning (exactly values.length body)).Succeeds input value rest ∧
          parser.Advances input values rest ∧ ∃ error, parser.Fails rest error) ∧
      (∀ error, (meaning body.atLeastOnce).Fails input error ↔
        parser.Fails input error ∨
          ∃ values current, parser.Advances input values current ∧ parser.Stalls current ∧
            error = .zeroWidth "at_least_once" (some current.length)) ∧
      (∀ halt, (meaning body.atLeastOnce input).outcome = .error halt ↔
        ∃ values current, parser.Advances input values current ∧
          (parser current).outcome = .error halt)) ∧
    ((meaning counted.many input).outcome = (meaning body.many input).outcome ∧
      (meaning counted.many input).log.length ≤ input.length + 1) ∧
    ((meaning counted.atLeastOnce input).outcome = (meaning body.atLeastOnce input).outcome ∧
      (meaning counted.atLeastOnce input).log.length ≤ input.length + 1) := by
  intro meaning parser counted
  refine ⟨⟨?_, fun _ => fails_many_iff, fun _ => halts_many_iff⟩,
    ⟨?_, fun _ => fails_atLeastOnce_iff, fun _ => halts_atLeastOnce_iff⟩,
    length_log_repeated_custom_counted 0 "many" parser input,
    length_log_repeated_custom_counted 1 "at_least_once" parser input⟩
  · intro value rest
    rw [succeeds_many_iff]
    constructor
    · intro ended
      rcases ended with ⟨values, rfl, row, failure⟩
      exact ⟨values, rfl, succeeds_exactly_of_advances row, row, failure⟩
    · intro ended
      rcases ended with ⟨values, same, _, row, failure⟩
      exact ⟨values, same, row, failure⟩
  · intro value rest
    rw [succeeds_atLeastOnce_iff]
    constructor
    · intro ended
      rcases ended with ⟨values, rfl, some, row, failure⟩
      exact ⟨values, rfl, some, succeeds_exactly_of_advances row, row, failure⟩
    · intro ended
      rcases ended with ⟨values, same, some, _, row, failure⟩
      exact ⟨values, same, some, row, failure⟩

end Grammar

end OrderedChoice
