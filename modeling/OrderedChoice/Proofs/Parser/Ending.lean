import OrderedChoice.Parser.Basic
import OrderedChoice.Parser.Matching
import OrderedChoice.Parser.Observed

/-!
# How parsers end

A parser that returns has either succeeded or failed.  The statements here say, for every
primitive and for every combinator that runs its parts once, exactly when it does the one
and when it does the other.  They look at outcomes only: what a parser writes to the log
never decides how it ends.
-/

namespace OrderedChoice

namespace Run

variable {α β : Type}

/-- A callback returns what it returns, and everything else it does is a fault. -/
theorem outcome_ofExcept_eq_ok_iff {callback : Except Fault α} {value : α} :
    (ofExcept callback).outcome = .ok value ↔ callback = .ok value := by
  cases callback with
  | ok result => simp only [ofExcept, outcome_answer, Except.ok.injEq]
  | error cause => simp only [ofExcept, fault, reduceCtorEq]

/-- A run that goes on returns exactly where both of its parts do. -/
theorem outcome_bind_eq_ok_iff {run : Run α} {next : α → Run β} {value : β} :
    (run >>= next).outcome = .ok value ↔
      ∃ middle, run.outcome = .ok middle ∧ (next middle).outcome = .ok value := by
  rw [outcome_bind]
  constructor
  · intro ended
    cases started : run.outcome with
    | error halt =>
        rw [started] at ended
        cases ended
    | ok middle =>
        rw [started] at ended
        exact ⟨middle, rfl, ended⟩
  · intro ended
    rcases ended with ⟨middle, started, ended⟩
    rw [started]
    exact ended

/-- A continuation that writes nothing leaves the log as it is. -/
theorem log_bind_of_silent {next : α → Run β} (run : Run α)
    (silent : ∀ value, (next value).log = []) : (run >>= next).log = run.log := by
  rw [log_bind]
  cases run.outcome with
  | error halt => rfl
  | ok value => simp only [silent, List.append_nil]

end Run

namespace Parser

variable {α β : Type} {input rest : Stream} {error : ParseError}

/-- The parser matches a part of the input and leaves the rest. -/
def Succeeds (parser : Parser α) (input : Stream) (value : α) (rest : Stream) : Prop :=
  (parser input).outcome = .ok (.success value rest)

/-- The parser does not match the input. -/
def Fails (parser : Parser α) (input : Stream) (error : ParseError) : Prop :=
  (parser input).outcome = .ok (.failure error)

/-- An input has one value and one rest at most. -/
theorem Succeeds.unique {parser : Parser α} {value other : α} {final : Stream}
    (first : parser.Succeeds input value rest) (second : parser.Succeeds input other final) :
    value = other ∧ rest = final := by
  have same := first.symm.trans second
  simp only [Except.ok.injEq, Result.success.injEq] at same
  exact same

/-- No parser both succeeds and fails. -/
theorem Succeeds.not_fails {parser : Parser α} {value : α}
    (success : parser.Succeeds input value rest) : ¬ parser.Fails input error := by
  intro failure
  have same := success.symm.trans failure
  simp only [Except.ok.injEq, reduceCtorEq] at same

@[simp]
theorem outcome_accept (value : α) (rest : Stream) :
    (accept value rest).outcome = .ok (.success value rest) := rfl

@[simp]
theorem outcome_reject (error : ParseError) :
    (reject error : Run (Result α)).outcome = .ok (.failure error) := rfl

/-! ## Going on after a success -/

section Sequencing

variable {first : Parser α} {value : β}

theorem succeeds_onSuccess_iff {next : α → Stream → Run (Result β)} :
    (first.onSuccess next).Succeeds input value rest ↔
      ∃ earlier middle, first.Succeeds input earlier middle ∧
        (next earlier middle).outcome = .ok (.success value rest) := by
  rw [Succeeds, onSuccess, Run.outcome_bind_eq_ok_iff]
  constructor
  · intro ended
    rcases ended with ⟨result, started, ended⟩
    cases result with
    | failure error => simp only [outcome_reject, Except.ok.injEq, reduceCtorEq] at ended
    | success earlier middle => exact ⟨earlier, middle, started, ended⟩
  · intro ended
    rcases ended with ⟨earlier, middle, started, ended⟩
    exact ⟨.success earlier middle, started, ended⟩

theorem fails_onSuccess_iff {next : α → Stream → Run (Result β)} :
    (first.onSuccess next).Fails input error ↔
      first.Fails input error ∨
        ∃ earlier middle, first.Succeeds input earlier middle ∧
          (next earlier middle).outcome = .ok (.failure error) := by
  rw [Fails, onSuccess, Run.outcome_bind_eq_ok_iff]
  constructor
  · intro ended
    rcases ended with ⟨result, started, ended⟩
    cases result with
    | failure cause =>
        simp only [outcome_reject, Except.ok.injEq, Result.failure.injEq] at ended
        exact Or.inl (ended ▸ started)
    | success earlier middle => exact Or.inr ⟨earlier, middle, started, ended⟩
  · intro ended
    rcases ended with started | ⟨earlier, middle, started, ended⟩
    · exact ⟨.failure error, started, rfl⟩
    · exact ⟨.success earlier middle, started, ended⟩

theorem succeeds_map_iff {f : α → β} :
    (first.map f).Succeeds input value rest ↔
      ∃ earlier, first.Succeeds input earlier rest ∧ f earlier = value := by
  rw [map, succeeds_onSuccess_iff]
  simp only [outcome_accept, Except.ok.injEq, Result.success.injEq]
  constructor
  · intro ended
    rcases ended with ⟨earlier, middle, started, same, rfl⟩
    exact ⟨earlier, started, same⟩
  · intro ended
    rcases ended with ⟨earlier, started, same⟩
    exact ⟨earlier, rest, started, same, rfl⟩

theorem fails_map_iff {f : α → β} : (first.map f).Fails input error ↔ first.Fails input error := by
  rw [map, fails_onSuccess_iff]
  simp only [outcome_accept, Except.ok.injEq, reduceCtorEq, and_false, exists_false, or_false]

/-- Changing the value of a match changes its outcome in no other way. -/
theorem outcome_map (f : α → β) (first : Parser α) (input : Stream) :
    (first.map f input).outcome =
      match (first input).outcome with
      | .ok (.success value rest) => .ok (.success (f value) rest)
      | .ok (.failure error) => .ok (.failure error)
      | .error halt => .error halt :=
  outcome_onSuccess first _ input

theorem outcome_map_congr {other : Parser α} {f : α → β}
    (same : (first input).outcome = (other input).outcome) :
    (first.map f input).outcome = (other.map f input).outcome := by
  rw [outcome_map, outcome_map, same]

theorem halts_map_iff {f : α → β} {halt : Halt} :
    (first.map f input).outcome = .error halt ↔ (first input).outcome = .error halt := by
  rw [outcome_map]
  cases (first input).outcome with
  | error found => simp only [Except.error.injEq]
  | ok result => cases result <;> simp only [reduceCtorEq]

theorem log_map (f : α → β) (first : Parser α) (input : Stream) :
    (first.map f input).log = (first input).log := by
  refine Run.log_bind_of_silent _ ?_
  intro result
  cases result <;> rfl

theorem succeeds_mapM_iff {f : α → Except Fault β} :
    (first.mapM f).Succeeds input value rest ↔
      ∃ earlier, first.Succeeds input earlier rest ∧ f earlier = .ok value := by
  rw [mapM, succeeds_onSuccess_iff]
  simp only [Run.outcome_bind_eq_ok_iff, Run.outcome_ofExcept_eq_ok_iff, outcome_accept,
    Except.ok.injEq, Result.success.injEq]
  constructor
  · intro ended
    rcases ended with ⟨earlier, middle, started, changed, called, rfl, rfl⟩
    exact ⟨earlier, started, called⟩
  · intro ended
    rcases ended with ⟨earlier, started, called⟩
    exact ⟨earlier, rest, started, value, called, rfl, rfl⟩

theorem fails_mapM_iff {f : α → Except Fault β} :
    (first.mapM f).Fails input error ↔ first.Fails input error := by
  rw [mapM, fails_onSuccess_iff]
  simp only [Run.outcome_bind_eq_ok_iff, outcome_accept, Except.ok.injEq, reduceCtorEq,
    and_false, exists_false, or_false]

theorem succeeds_bind_iff {next : α → Parser β} :
    (first.bind next).Succeeds input value rest ↔
      ∃ earlier middle, first.Succeeds input earlier middle ∧
        (next earlier).Succeeds middle value rest :=
  succeeds_onSuccess_iff

theorem fails_bind_iff {next : α → Parser β} :
    (first.bind next).Fails input error ↔
      first.Fails input error ∨
        ∃ earlier middle, first.Succeeds input earlier middle ∧ (next earlier).Fails middle error :=
  fails_onSuccess_iff

variable {second : Parser β}

theorem succeeds_seqRight_iff :
    (first.seqRight second).Succeeds input value rest ↔
      ∃ earlier middle, first.Succeeds input earlier middle ∧ second.Succeeds middle value rest :=
  succeeds_onSuccess_iff

theorem fails_seqRight_iff :
    (first.seqRight second).Fails input error ↔
      first.Fails input error ∨
        ∃ earlier middle, first.Succeeds input earlier middle ∧ second.Fails middle error :=
  fails_onSuccess_iff

theorem succeeds_seqLeft_iff {value : α} :
    (first.seqLeft second).Succeeds input value rest ↔
      ∃ middle later, first.Succeeds input value middle ∧ second.Succeeds middle later rest := by
  refine succeeds_onSuccess_iff.trans ?_
  constructor
  · intro ended
    rcases ended with ⟨earlier, middle, started, ended⟩
    rcases succeeds_onSuccess_iff.mp ended with ⟨later, final, followed, kept⟩
    simp only [outcome_accept, Except.ok.injEq, Result.success.injEq] at kept
    rcases kept with ⟨rfl, rfl⟩
    exact ⟨middle, later, started, followed⟩
  · intro ended
    rcases ended with ⟨middle, later, started, followed⟩
    exact ⟨value, middle, started, succeeds_onSuccess_iff.mpr ⟨later, rest, followed, rfl⟩⟩

theorem fails_seqLeft_iff :
    (first.seqLeft second).Fails input error ↔
      first.Fails input error ∨
        ∃ earlier middle, first.Succeeds input earlier middle ∧ second.Fails middle error := by
  refine fails_onSuccess_iff.trans (or_congr Iff.rfl (exists_congr fun earlier =>
    exists_congr fun middle => and_congr Iff.rfl (fails_onSuccess_iff.trans ?_)))
  simp only [outcome_accept, Except.ok.injEq, reduceCtorEq, and_false, exists_false, or_false]

theorem succeeds_both_iff {pair : α × β} :
    (first.both second).Succeeds input pair rest ↔
      ∃ middle, first.Succeeds input pair.1 middle ∧ second.Succeeds middle pair.2 rest := by
  refine succeeds_onSuccess_iff.trans ?_
  constructor
  · intro ended
    rcases ended with ⟨earlier, middle, started, ended⟩
    rcases succeeds_onSuccess_iff.mp ended with ⟨later, final, followed, kept⟩
    simp only [outcome_accept, Except.ok.injEq, Result.success.injEq] at kept
    rcases kept with ⟨rfl, rfl⟩
    exact ⟨middle, started, followed⟩
  · intro ended
    rcases ended with ⟨middle, started, followed⟩
    exact ⟨pair.1, middle, started, succeeds_onSuccess_iff.mpr ⟨pair.2, rest, followed, rfl⟩⟩

theorem fails_both_iff :
    (first.both second).Fails input error ↔
      first.Fails input error ∨
        ∃ earlier middle, first.Succeeds input earlier middle ∧ second.Fails middle error := by
  refine fails_onSuccess_iff.trans (or_congr Iff.rfl (exists_congr fun earlier =>
    exists_congr fun middle => and_congr Iff.rfl (fails_onSuccess_iff.trans ?_)))
  simp only [outcome_accept, Except.ok.injEq, reduceCtorEq, and_false, exists_false, or_false]

end Sequencing

/-! ## Choosing, checking and looking -/

section Choosing

variable {parser other : Parser α} {value : α}

/-- How a choice ends, by the way its first alternative ends. -/
theorem outcome_orElse (parser other : Parser α) (input : Stream) :
    (parser.orElse other input).outcome =
      match (parser input).outcome with
      | .ok (.success value rest) => .ok (.success value rest)
      | .ok (.failure _) => (other input).outcome
      | .error halt => .error halt := by
  rw [orElse, Run.outcome_bind]
  cases (parser input).outcome with
  | error halt => rfl
  | ok result => cases result <;> rfl

theorem succeeds_orElse_iff :
    (parser.orElse other).Succeeds input value rest ↔
      parser.Succeeds input value rest ∨
        (∃ cause, parser.Fails input cause) ∧ other.Succeeds input value rest := by
  rw [Succeeds, orElse, Run.outcome_bind_eq_ok_iff]
  constructor
  · intro ended
    rcases ended with ⟨result, started, ended⟩
    cases result with
    | success earlier middle =>
        simp only [outcome_accept, Except.ok.injEq, Result.success.injEq] at ended
        rcases ended with ⟨rfl, rfl⟩
        exact Or.inl started
    | failure cause => exact Or.inr ⟨⟨cause, started⟩, ended⟩
  · intro ended
    rcases ended with started | ⟨⟨cause, started⟩, ended⟩
    · exact ⟨.success value rest, started, rfl⟩
    · exact ⟨.failure cause, started, ended⟩

theorem fails_orElse_iff :
    (parser.orElse other).Fails input error ↔
      (∃ cause, parser.Fails input cause) ∧ other.Fails input error := by
  rw [Fails, orElse, Run.outcome_bind_eq_ok_iff]
  constructor
  · intro ended
    rcases ended with ⟨result, started, ended⟩
    cases result with
    | success earlier middle => simp only [outcome_accept, Except.ok.injEq, reduceCtorEq] at ended
    | failure cause => exact ⟨⟨cause, started⟩, ended⟩
  · intro ended
    rcases ended with ⟨⟨cause, started⟩, ended⟩
    exact ⟨.failure cause, started, ended⟩

theorem exists_fails_orElse (first : ∃ cause, parser.Fails input cause)
    (second : ∃ cause, other.Fails input cause) : ∃ cause, (parser.orElse other).Fails input cause :=
  second.imp fun _ failed => fails_orElse_iff.mpr ⟨first, failed⟩

theorem succeeds_filter_iff {check : α → Except Fault (Option ParseError)} :
    (parser.filter check).Succeeds input value rest ↔
      parser.Succeeds input value rest ∧ check value = .ok none := by
  refine succeeds_onSuccess_iff.trans ?_
  simp only [Run.outcome_bind_eq_ok_iff, Run.outcome_ofExcept_eq_ok_iff]
  constructor
  · intro ended
    rcases ended with ⟨earlier, middle, started, verdict, checked, ended⟩
    cases verdict with
    | some cause => simp only [outcome_reject, Except.ok.injEq, reduceCtorEq] at ended
    | none =>
        simp only [outcome_accept, Except.ok.injEq, Result.success.injEq] at ended
        rcases ended with ⟨rfl, rfl⟩
        exact ⟨started, checked⟩
  · intro ended
    rcases ended with ⟨started, checked⟩
    exact ⟨value, rest, started, none, checked, rfl⟩

/-- A check sees successes only, and its error is located before it is returned. -/
theorem fails_filter_iff {check : α → Except Fault (Option ParseError)} :
    (parser.filter check).Fails input error ↔
      parser.Fails input error ∨
        ∃ earlier middle cause, parser.Succeeds input earlier middle ∧
          check earlier = .ok (some cause) ∧ error = cause.located input.length := by
  refine fails_onSuccess_iff.trans (or_congr Iff.rfl ?_)
  simp only [Run.outcome_bind_eq_ok_iff, Run.outcome_ofExcept_eq_ok_iff]
  constructor
  · intro ended
    rcases ended with ⟨earlier, middle, started, verdict, checked, ended⟩
    cases verdict with
    | none => simp only [outcome_accept, Except.ok.injEq, reduceCtorEq] at ended
    | some cause =>
        simp only [outcome_reject, Except.ok.injEq, Result.failure.injEq] at ended
        exact ⟨earlier, middle, cause, started, checked, ended.symm⟩
  · intro ended
    rcases ended with ⟨earlier, middle, cause, started, checked, rfl⟩
    exact ⟨earlier, middle, started, some cause, checked, rfl⟩

theorem succeeds_lookAhead_iff :
    parser.lookAhead.Succeeds input value rest ↔
      rest = input ∧ ∃ middle, parser.Succeeds input value middle := by
  refine succeeds_onSuccess_iff.trans ?_
  simp only [outcome_accept, Except.ok.injEq, Result.success.injEq]
  constructor
  · intro ended
    rcases ended with ⟨earlier, middle, started, rfl, rfl⟩
    exact ⟨rfl, middle, started⟩
  · intro ended
    rcases ended with ⟨rfl, middle, started⟩
    exact ⟨value, middle, started, rfl, rfl⟩

theorem fails_lookAhead_iff : parser.lookAhead.Fails input error ↔ parser.Fails input error := by
  refine fails_onSuccess_iff.trans ?_
  simp only [outcome_accept, Except.ok.injEq, reduceCtorEq, and_false, exists_false, or_false]

variable {display : α → String}

theorem succeeds_notFollowedBy_iff {found : Unit} :
    (parser.notFollowedBy display).Succeeds input found rest ↔
      rest = input ∧ ∃ cause, parser.Fails input cause := by
  rw [Succeeds, notFollowedBy, Run.outcome_bind_eq_ok_iff]
  constructor
  · intro ended
    rcases ended with ⟨result, started, ended⟩
    cases result with
    | success earlier middle => simp only [outcome_reject, Except.ok.injEq, reduceCtorEq] at ended
    | failure cause =>
        simp only [outcome_accept, Except.ok.injEq, Result.success.injEq] at ended
        exact ⟨ended.2.symm, cause, started⟩
  · intro ended
    rcases ended with ⟨rfl, cause, started⟩
    exact ⟨.failure cause, started, rfl⟩

theorem fails_notFollowedBy_iff :
    (parser.notFollowedBy display).Fails input error ↔
      ∃ earlier middle, parser.Succeeds input earlier middle ∧
        error = .message ("unexpected " ++ display earlier) (some input.length) := by
  rw [Fails, notFollowedBy, Run.outcome_bind_eq_ok_iff]
  constructor
  · intro ended
    rcases ended with ⟨result, started, ended⟩
    cases result with
    | failure cause => simp only [outcome_accept, Except.ok.injEq, reduceCtorEq] at ended
    | success earlier middle =>
        simp only [outcome_reject, Except.ok.injEq, Result.failure.injEq] at ended
        exact ⟨earlier, middle, started, ended.symm⟩
  · intro ended
    rcases ended with ⟨earlier, middle, started, rfl⟩
    exact ⟨.success earlier middle, started, rfl⟩

end Choosing

/-! ## Primitives -/

section Primitives

theorem succeeds_pure_iff {offered value : α} :
    (pure offered).Succeeds input value rest ↔ value = offered ∧ rest = input := by
  simp only [Succeeds, pure, outcome_accept, Except.ok.injEq, Result.success.injEq, eq_comm]

theorem not_fails_pure {offered : α} : ¬ (pure offered).Fails input error := by
  simp only [Fails, pure, outcome_accept, Except.ok.injEq, reduceCtorEq, not_false_eq_true]

theorem not_succeeds_fail {content : String} {value : α} :
    ¬ (fail content).Succeeds input value rest := by
  simp only [Succeeds, fail, outcome_reject, Except.ok.injEq, reduceCtorEq, not_false_eq_true]

theorem fails_fail_iff {content : String} :
    (fail content : Parser α).Fails input error ↔
      error = .message content (some input.length) := by
  simp only [Fails, fail, outcome_reject, Except.ok.injEq, Result.failure.injEq, eq_comm]

theorem not_succeeds_fault {cause : Fault} {value : α} :
    ¬ (fault cause).Succeeds input value rest := by
  simp only [Succeeds, fault, Run.fault, reduceCtorEq, not_false_eq_true]

theorem not_fails_fault {cause : Fault} : ¬ (fault cause : Parser α).Fails input error := by
  simp only [Fails, fault, Run.fault, reduceCtorEq, not_false_eq_true]

variable {select : Value → Except Fault (Option α)} {expected : Value} {display : Value → String}

theorem succeeds_token_iff {value : α} :
    (token select expected display).Succeeds input value rest ↔
      ∃ element, input.head? = some element ∧ select element = .ok (some value) ∧
        rest = input.drop 1 := by
  unfold Succeeds token
  cases input.head? with
  | none => simp only [outcome_reject, Except.ok.injEq, reduceCtorEq, false_and, exists_false]
  | some element =>
      simp only [Run.outcome_bind_eq_ok_iff, Run.outcome_ofExcept_eq_ok_iff, Option.some.injEq,
        exists_eq_left']
      constructor
      · intro ended
        rcases ended with ⟨selection, selected, ended⟩
        cases selection with
        | none => simp only [outcome_reject, Except.ok.injEq, reduceCtorEq] at ended
        | some taken =>
            simp only [outcome_accept, Except.ok.injEq, Result.success.injEq] at ended
            exact ⟨ended.1 ▸ selected, ended.2.symm⟩
      · intro ended
        rcases ended with ⟨selected, rfl⟩
        exact ⟨some value, selected, rfl⟩

theorem fails_token_iff :
    (token select expected display).Fails input error ↔
      input.head? = none ∧ error = .unexpected expected (.text "") (some 0) ∨
        ∃ element, input.head? = some element ∧ select element = .ok none ∧
          error = .unexpected expected (.text (display element)) (some input.length) := by
  unfold Fails token
  cases input.head? with
  | none =>
      simp only [outcome_reject, Except.ok.injEq, Result.failure.injEq, eq_comm, true_and,
        reduceCtorEq, false_and, exists_false, or_false]
  | some element =>
      simp only [Run.outcome_bind_eq_ok_iff, Run.outcome_ofExcept_eq_ok_iff, Option.some.injEq,
        exists_eq_left', reduceCtorEq, false_and, false_or]
      constructor
      · intro ended
        rcases ended with ⟨selection, selected, ended⟩
        cases selection with
        | some taken => simp only [outcome_accept, Except.ok.injEq, reduceCtorEq] at ended
        | none =>
            simp only [outcome_reject, Except.ok.injEq, Result.failure.injEq] at ended
            exact ⟨selected, ended.symm⟩
      · intro ended
        rcases ended with ⟨selected, rfl⟩
        exact ⟨none, selected, rfl⟩

variable {literal : Stream} {value : Value}

theorem succeeds_tokens_iff :
    (tokens literal expected display).Succeeds input value rest ↔
      input.startsWith literal = true ∧ value = (input.take literal.length).toValue ∧
        rest = input.drop literal.length := by
  unfold Succeeds tokens
  cases starts : input.startsWith literal with
  | true =>
      simp only [if_true, outcome_accept, Except.ok.injEq, Result.success.injEq, true_and, eq_comm]
  | false =>
      simp only [Bool.false_eq_true, if_false, outcome_reject, Except.ok.injEq, reduceCtorEq,
        false_and]

theorem fails_tokens_iff :
    (tokens literal expected display).Fails input error ↔
      input.startsWith literal = false ∧
        error = .unexpected expected
          (.text (if input.length = 0 then "" else display (input.take literal.length).toValue))
          (some input.length) := by
  unfold Fails tokens
  cases starts : input.startsWith literal with
  | true => simp only [if_true, outcome_accept, Except.ok.injEq, reduceCtorEq, Bool.true_eq_false,
      false_and]
  | false =>
      simp only [Bool.false_eq_true, if_false, outcome_reject, Except.ok.injEq,
        Result.failure.injEq, true_and, eq_comm]

theorem succeeds_endOfInput_iff {found : Unit} :
    endOfInput.Succeeds input found rest ↔ input.head? = none ∧ rest = input := by
  unfold Succeeds endOfInput
  cases input.head? with
  | none =>
      simp only [outcome_accept, Except.ok.injEq, Result.success.injEq, true_and, eq_comm]
  | some element => simp only [outcome_reject, Except.ok.injEq, reduceCtorEq, false_and]

theorem fails_endOfInput_iff :
    endOfInput.Fails input error ↔
      ∃ element, input.head? = some element ∧
        error = .unexpected (.text "end of input") (.text element.shown) (some input.length) := by
  unfold Fails endOfInput
  cases input.head? with
  | none => simp only [outcome_accept, Except.ok.injEq, reduceCtorEq, false_and, exists_false]
  | some element =>
      simp only [outcome_reject, Except.ok.injEq, Result.failure.injEq, Option.some.injEq,
        exists_eq_left', eq_comm]

end Primitives

/-! ## Patterns and the log -/

section Matching

variable {pattern : Pattern} {value : Value}

private theorem succeeds_matched {length : Option Nat}
    (success : (matched pattern input length).outcome = .ok (.success value rest)) :
    ∃ taken, value = (input.take taken).toValue ∧ rest = input.drop taken := by
  cases length with
  | none => simp only [matched, outcome_reject, Except.ok.injEq, reduceCtorEq] at success
  | some taken =>
      simp only [matched, outcome_accept, Except.ok.injEq, Result.success.injEq] at success
      exact ⟨taken, success.1.symm, success.2.symm⟩

private theorem fails_matched {length : Option Nat}
    (failure : (matched pattern input length).outcome = .ok (.failure error)) :
    error = .unexpected (.text ("/" ++ pattern.source ++ "/"))
      (.text (if input.length = 0 then "" else (input.take 1).toValue.shown))
      (some input.length) := by
  cases length with
  | some taken => simp only [matched, outcome_accept, Except.ok.injEq, reduceCtorEq] at failure
  | none =>
      simp only [matched, outcome_reject, Except.ok.injEq, Result.failure.injEq] at failure
      exact failure.symm

/-- Whatever length the pattern finds, the value is that much of the input and the rest
is what stands behind it. -/
theorem Succeeds.split_of_matching (success : (matching pattern).Succeeds input value rest) :
    ∃ taken, value = (input.take taken).toValue ∧ rest = input.drop taken := by
  unfold Succeeds matching at success
  split at success
  · exact succeeds_matched success
  · exact succeeds_matched success
  · cases success
  · cases success
  · cases success
  · cases success

/-- A pattern that is not found is reported where it was looked for. -/
theorem Fails.report_of_matching (failure : (matching pattern).Fails input error) :
    error = .unexpected (.text ("/" ++ pattern.source ++ "/"))
      (.text (if input.length = 0 then "" else (input.take 1).toValue.shown))
      (some input.length) := by
  unfold Fails matching at failure
  split at failure
  · exact fails_matched failure
  · exact fails_matched failure
  · cases failure
  · cases failure
  · cases failure
  · cases failure

end Matching

section Observing

variable {verbosity : Verbosity} {label subject : String} {parser : Parser Value} {value : Value}

/-- A note matches nothing, whether records are kept or not. -/
theorem outcome_note : (note verbosity label input).outcome = .ok (.success () input) := rfl

theorem succeeds_note_iff {found : Unit} :
    (note verbosity label).Succeeds input found rest ↔ rest = input := by
  rw [Succeeds, outcome_note]
  simp only [Except.ok.injEq, Result.success.injEq, true_and, eq_comm]

theorem not_fails_note : ¬ (note verbosity label).Fails input error := by
  rw [Fails, outcome_note]
  simp only [Except.ok.injEq, reduceCtorEq, not_false_eq_true]

/-- An observed parser ends as the parser itself. -/
theorem outcome_observed :
    (observed verbosity label subject parser input).outcome = (parser input).outcome := by
  unfold observed
  rw [Run.outcome_bind]
  change (parser input >>= _).outcome = _
  rw [Run.outcome_bind]
  cases (parser input).outcome with
  | error halt => rfl
  | ok result => cases result <;> rfl

theorem succeeds_observed_iff :
    (observed verbosity label subject parser).Succeeds input value rest ↔
      parser.Succeeds input value rest := by
  rw [Succeeds, outcome_observed, Succeeds]

theorem fails_observed_iff :
    (observed verbosity label subject parser).Fails input error ↔ parser.Fails input error := by
  rw [Fails, outcome_observed, Fails]

end Observing

end Parser

end OrderedChoice
