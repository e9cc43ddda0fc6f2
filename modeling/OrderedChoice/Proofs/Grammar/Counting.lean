import Mathlib.Data.List.Basic
import OrderedChoice.Proofs.Grammar.FlatSequence
import OrderedChoice.Proofs.Repetition

/-!
# Counted repetition

A repetition of a given number is a flat row of that many copies of its parser.  It may
therefore be cut into two repetitions of fewer times, or into several of the same number, and
put together again.  Nothing is asked of the parser: it may match nothing, fail at any of the
copies or not return, and every way to count ends alike, with the same log.
-/

namespace OrderedChoice

namespace Parser

variable {α β γ : Type}

/-! ## Rows of one parser -/

theorem exactly_succ (parser : Parser α) (count : Nat) :
    parser.exactly (count + 1) = parser.onSuccess fun value middle =>
      (parser.exactly count).onSuccess (fun values rest => accept (value :: values) rest)
        middle := rfl

theorem exactly_eq_inTurn (parser : Parser α) (count : Nat) :
    parser.exactly count = inTurn (List.replicate count parser) := by
  induction count with
  | zero => rfl
  | succ count fewer => rw [exactly_succ, fewer, List.replicate_succ, inTurn]

theorem exactly_add (parser : Parser α) (count more : Nat) :
    parser.exactly (count + more) = (parser.exactly count).onSuccess fun values middle =>
      (parser.exactly more).onSuccess (fun others rest => accept (values ++ others) rest)
        middle := by
  simp only [exactly_eq_inTurn]
  rw [← List.replicate_append_replicate, inTurn_append]

/-- Values may be changed one by one, or all of them in the end. -/
theorem exactly_map (f : α → β) (parser : Parser α) (count : Nat) :
    (parser.map f).exactly count = (parser.exactly count).map (List.map f) := by
  induction count with
  | zero => rfl
  | succ count fewer =>
      rw [exactly_succ, map_onSuccess, exactly_succ, onSuccess_map]
      congr 1
      funext value middle
      rw [fewer, map_onSuccess, onSuccess_map]
      rfl

/-- A repetition of repetitions matches the product of both numbers. -/
theorem exactly_mul (parser : Parser α) (count times : Nat) :
    parser.exactly (count * times) = ((parser.exactly count).exactly times).map List.flatten := by
  induction times with
  | zero => rfl
  | succ times fewer =>
      -- One more time is one more repetition in front of the others.
      rw [Nat.mul_succ, Nat.add_comm, exactly_add, fewer, exactly_succ, onSuccess_map]
      congr 1
      funext values middle
      rw [map_onSuccess, onSuccess_map]
      rfl

theorem length_of_succeeds_exactly {parser : Parser α} {count : Nat} {input rest : Stream}
    {values : List α} (success : (parser.exactly count).Succeeds input values rest) :
    values.length = count := by
  rw [exactly_eq_inTurn] at success
  exact (succeeds_inTurn_iff.mp success).length_eq.trans List.length_replicate

/-- A repetition stops where its parser does after fewer matches than it counts. -/
theorem stops_exactly_iff {parser : Parser α} {count : Nat} {input : Stream} {stop : Stop} :
    (parser.exactly count input).outcome = stop.outcome ↔
      ∃ fewer < count, ∃ values current, (parser.exactly fewer).Succeeds input values current ∧
        (parser current).outcome = stop.outcome := by
  simp only [exactly_eq_inTurn, succeeds_inTurn_iff]
  rw [stops_inTurn_iff]
  constructor
  · intro stopped
    rcases stopped with ⟨before, stopping, behind, values, current, split, follows, stopped⟩
    rcases List.append_eq_replicate_iff.mp split.symm with ⟨counted, early, late⟩
    have same : stopping = parser :=
      List.eq_of_mem_replicate (late ▸ List.mem_cons_self)
    refine ⟨before.length, ?_, values, current, early ▸ follows, same ▸ stopped⟩
    rw [← counted, List.length_cons]
    exact Nat.lt_add_of_pos_right (Nat.succ_pos _)
  · intro stopped
    rcases stopped with ⟨fewer, less, values, current, follows, stopped⟩
    rcases Nat.exists_eq_add_of_lt less with ⟨more, rfl⟩
    refine ⟨_, parser, List.replicate more parser, values, current, ?_, follows, stopped⟩
    rw [Nat.add_assoc, ← List.replicate_append_replicate, List.replicate_succ]

end Parser

namespace Grammar

variable {ν : Type} {verbosity : Verbosity} {rules : ν → Parser Value} {rounds : Nat}

/-! ## Lists of lists -/

/-- The list that the two lists of a pair make. -/
def concatenate : Value → Except Fault Value
  | .tuple [.list values, .list others] => return .list (values ++ others)
  | _ => throw (.badValue "concatenate")

/-- The items of a value that is a list. -/
def items? : Value → Except Fault (List Value)
  | .list values => return values
  | _ => throw (.badValue "items")

/-- The list that all lists in a list make. -/
def concatenateAll (value : Value) : Except Fault Value := do
  return .list (← (← items? value).mapM items?).flatten

/-- A tuple read as a list. -/
def listOfTuple : Value → Except Fault Value
  | .tuple values => return .list values
  | _ => throw (.badValue "list")

theorem mapM_items?_map_list (lists : List (List Value)) :
    (lists.map Value.list).mapM items? = .ok lists := by
  induction lists with
  | nil => rfl
  | cons first others later =>
      rw [List.map_cons, List.mapM_cons, later]
      rfl

theorem concatenateAll_list_map_list (lists : List (List Value)) :
    concatenateAll (.list (lists.map .list)) = .ok (.list lists.flatten) := by
  change (do return Value.list (← (lists.map Value.list).mapM items?).flatten : Except _ _) = _
  rw [mapM_items?_map_list]
  rfl

/-! ## Counting in grammars -/

theorem parser_exactly (body : Grammar ν) (count : Nat) :
    (exactly count body).parser verbosity rules rounds =
      ((body.parser verbosity rules rounds).exactly count).map .list := rfl

theorem parser_exactly_add (body : Grammar ν) (count more : Nat) :
    (exactly (count + more) body).parser verbosity rules rounds =
      (((exactly count body).both (exactly more body)).map concatenate).parser verbosity rules
        rounds := by
  have paired : ((exactly count body).both (exactly more body)).parser verbosity rules rounds =
      _ := Joint.parser_grammar .both (exactly count body) (exactly more body) verbosity rules
        rounds
  change _ = Parser.onSuccess (((exactly count body).both (exactly more body)).parser verbosity
    rules rounds) _
  rw [paired, Parser.onSuccess_assoc, parser_exactly, parser_exactly, parser_exactly,
    Parser.exactly_add, Parser.onSuccess_map, Parser.map_onSuccess]
  congr 1
  funext values middle
  rw [Parser.onSuccess_map, Parser.onSuccess_assoc, Parser.map_onSuccess]
  rfl

theorem parser_exactly_mul (body : Grammar ν) (count times : Nat) :
    (exactly (count * times) body).parser verbosity rules rounds =
      ((exactly times (exactly count body)).map concatenateAll).parser verbosity rules
        rounds := by
  change _ = Parser.onSuccess ((exactly times (exactly count body)).parser verbosity rules
    rounds) _
  rw [parser_exactly, parser_exactly, parser_exactly, Parser.exactly_mul, Parser.exactly_map,
    Parser.map_onSuccess, Parser.map_onSuccess]
  refine (Parser.map_onSuccess _ _ _).trans ?_
  congr 1
  funext lists rest
  rw [concatenateAll_list_map_list]
  rfl

theorem parser_exactly_eq_sequence (body : Grammar ν) (count : Nat) :
    (exactly (count + 1) body).parser verbosity rules rounds =
      ((sequence body (List.replicate count body)).map listOfTuple).parser verbosity rules
        rounds := by
  change _ = Parser.onSuccess ((sequence body (List.replicate count body)).parser verbosity rules
    rounds) _
  rw [parser_exactly, parser_sequence, Parser.map_onSuccess, Parser.exactly_eq_inTurn,
    ← List.replicate_succ, List.map_replicate]
  rfl

/-- Every arity that is accepted has a sequence operator, which takes that many copies of a
grammar and runs them as the counted repetition does. -/
theorem sequenceOf?_replicate {count : Nat} (accepted : checkArity count = .ok ())
    (body : Grammar ν) :
    ∃ flat, sequenceOf? count (List.replicate count body) = .ok flat ∧
      (exactly count body).parser verbosity rules rounds =
        (flat.map listOfTuple).parser verbosity rules rounds := by
  cases count with
  | zero => cases accepted
  | succ count =>
      have complete : (body :: List.replicate count body).length = count + 1 := by
        rw [List.length_cons, List.length_replicate]
      refine ⟨sequence body (List.replicate count body), ?_, parser_exactly_eq_sequence body count⟩
      rw [List.replicate_succ, ← complete]
      exact sequenceOf?_eq_ok (complete.symm ▸ accepted)

theorem stops_exactly_iff {body : Grammar ν} {count : Nat} {input : Stream}
    (stop : Parser.Stop) :
    ((exactly count body).parser verbosity rules rounds input).outcome = stop.outcome ↔
      ∃ fewer < count, ∃ values current,
        ((exactly fewer body).parser verbosity rules rounds).Succeeds input (.list values)
          current ∧ values.length = fewer ∧
        (body.parser verbosity rules rounds current).outcome = stop.outcome := by
  have counted : ((exactly count body).parser verbosity rules rounds input).outcome =
      stop.outcome ↔
        ((body.parser verbosity rules rounds).exactly count input).outcome = stop.outcome := by
    cases stop with
    | failed error => exact Parser.fails_map_iff
    | halted halt => exact Parser.halts_map_iff
  refine counted.trans (Parser.stops_exactly_iff.trans ?_)
  constructor
  · intro stopped
    rcases stopped with ⟨fewer, less, values, current, success, stopped⟩
    exact ⟨fewer, less, values, current, Parser.succeeds_map_iff.mpr ⟨values, success, rfl⟩,
      Parser.length_of_succeeds_exactly success, stopped⟩
  · intro stopped
    rcases stopped with ⟨fewer, less, values, current, success, _, stopped⟩
    rcases Parser.succeeds_map_iff.mp success with ⟨_, success, same⟩
    cases same
    exact ⟨fewer, less, values, current, success, stopped⟩

/-- Laws of counted repetition, for every grammar and every input.  Repeating a grammar so many
times and more is one repetition behind the other, with the two lists put together, and
repeating a repetition multiplies the numbers.  Where there is a sequence operator for a number,
applied to that many copies of the grammar it does what the repetition does, with a tuple for
the list.  All of these are equal to the log.  So a repetition fails, or does not return, just
as the grammar does at the first of the counted matches that does not succeed, and it never
comes back with fewer values than it counts. -/
theorem counted_repetitions_agree (verbosity : Verbosity) (rules : ν → Parser Value)
    (rounds : Nat) (body : Grammar ν) (input : Stream) :
    let meaning := Grammar.parser verbosity rules rounds
    (∀ count more, meaning (exactly (count + more) body) input =
      meaning (((exactly count body).both (exactly more body)).map concatenate) input) ∧
    (∀ count times, meaning (exactly (count * times) body) input =
      meaning ((exactly times (exactly count body)).map concatenateAll) input) ∧
    (∀ count : Nat, checkArity count = .ok () →
      ∃ flat, sequenceOf? count (List.replicate count body) = .ok flat ∧
        meaning (exactly count body) input = meaning (flat.map listOfTuple) input) ∧
    ∀ count,
      (∀ error, (meaning (exactly count body)).Fails input error ↔
        ∃ fewer < count, ∃ values current,
          (meaning (exactly fewer body)).Succeeds input (.list values) current ∧
          values.length = fewer ∧ (meaning body).Fails current error) ∧
      (∀ halt, (meaning (exactly count body) input).outcome = .error halt ↔
        ∃ fewer < count, ∃ values current,
          (meaning (exactly fewer body)).Succeeds input (.list values) current ∧
          values.length = fewer ∧ (meaning body current).outcome = .error halt) ∧
      ∀ value rest, (meaning (exactly count body)).Succeeds input value rest →
        ∃ values, value = .list values ∧ values.length = count := by
  intro meaning
  refine ⟨?_, ?_, ?_, ?_⟩
  · intro count more
    exact congrFun (parser_exactly_add body count more) input
  · intro count times
    exact congrFun (parser_exactly_mul body count times) input
  · intro count accepted
    rcases sequenceOf?_replicate accepted body with ⟨flat, made, same⟩
    exact ⟨flat, made, congrFun same input⟩
  · intro count
    refine ⟨fun error => stops_exactly_iff (.failed error),
      fun halt => stops_exactly_iff (.halted halt), ?_⟩
    intro value rest success
    rcases Parser.succeeds_map_iff.mp success with ⟨values, success, same⟩
    exact ⟨values, same.symm, Parser.length_of_succeeds_exactly success⟩

end Grammar

end OrderedChoice
