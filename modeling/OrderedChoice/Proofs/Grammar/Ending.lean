import OrderedChoice.Grammar.Derived
import OrderedChoice.Proofs.Parser.Ending

/-!
# How grammars end

The parts of a grammar whose parser is not just the combinator of the same name: those that
change the value of a match into one value for all grammars, and the derived ones.
-/

namespace OrderedChoice

namespace Grammar

variable {ν : Type} {verbosity : Verbosity} {rules : ν → Parser Value} {rounds : Nat}
  {first second body : Grammar ν} {input rest : Stream} {value : Value} {error : ParseError}

section Elements

variable {test : Value → Except Fault Bool} {expected : Value} {display : Value → String}

/-- A test keeps the element or drops it. -/
theorem selection_eq_ok_iff {element : Value} {selection : Option Value} :
    (do return if ← test element then some element else none : Except Fault (Option Value)) =
        .ok selection ↔
      test element = .ok true ∧ selection = some element ∨
        test element = .ok false ∧ selection = none := by
  cases test element with
  | error cause =>
      change Except.error cause = Except.ok selection ↔ _
      simp only [reduceCtorEq, false_and, or_self]
  | ok passed =>
      change Except.ok (if passed then some element else none) = Except.ok selection ↔ _
      cases passed with
      | true =>
          simp only [if_true, Except.ok.injEq, true_and, reduceCtorEq, false_and, or_false, eq_comm]
      | false =>
          simp only [Bool.false_eq_true, if_false, Except.ok.injEq, true_and, false_and, false_or,
            eq_comm]

theorem succeeds_satisfy_iff :
    ((satisfy test expected display).parser verbosity rules rounds).Succeeds input value rest ↔
      input.head? = some value ∧ test value = .ok true ∧ rest = input.drop 1 := by
  refine Parser.succeeds_token_iff.trans ?_
  constructor
  · intro success
    rcases success with ⟨element, head, selected, left⟩
    rcases selection_eq_ok_iff.mp selected with ⟨passed, same⟩ | ⟨_, impossible⟩
    · cases same
      exact ⟨head, passed, left⟩
    · cases impossible
  · intro success
    rcases success with ⟨head, passed, left⟩
    exact ⟨value, head, selection_eq_ok_iff.mpr (Or.inl ⟨passed, rfl⟩), left⟩

theorem fails_satisfy_iff :
    ((satisfy test expected display).parser verbosity rules rounds).Fails input error ↔
      input.head? = none ∧ error = .unexpected expected (.text "") (some 0) ∨
        ∃ element, input.head? = some element ∧ test element = .ok false ∧
          error = .unexpected expected (.text (display element)) (some input.length) := by
  refine Parser.fails_token_iff.trans (or_congr Iff.rfl (exists_congr fun element =>
    and_congr Iff.rfl (and_congr ?_ Iff.rfl)))
  refine selection_eq_ok_iff.trans ?_
  simp only [reduceCtorEq, and_false, and_true, false_or]

end Elements

theorem succeeds_endOfInput_iff :
    ((endOfInput : Grammar ν).parser verbosity rules rounds).Succeeds input value rest ↔
      input.head? = none ∧ value = .nothing ∧ rest = input := by
  refine Parser.succeeds_map_iff.trans ?_
  constructor
  · intro success
    rcases success with ⟨_, started, same⟩
    rcases Parser.succeeds_endOfInput_iff.mp started with ⟨ended, left⟩
    exact ⟨ended, same.symm, left⟩
  · intro success
    rcases success with ⟨ended, same, left⟩
    exact ⟨(), Parser.succeeds_endOfInput_iff.mpr ⟨ended, left⟩, same.symm⟩

theorem fails_endOfInput_iff :
    ((endOfInput : Grammar ν).parser verbosity rules rounds).Fails input error ↔
      ∃ element, input.head? = some element ∧
        error = .unexpected (.text "end of input") (.text element.shown) (some input.length) :=
  Parser.fails_map_iff.trans Parser.fails_endOfInput_iff

theorem succeeds_both_iff :
    ((both first second).parser verbosity rules rounds).Succeeds input value rest ↔
      ∃ earlier later middle, value = .tuple [earlier, later] ∧
        (first.parser verbosity rules rounds).Succeeds input earlier middle ∧
        (second.parser verbosity rules rounds).Succeeds middle later rest := by
  refine Parser.succeeds_map_iff.trans ?_
  constructor
  · intro success
    rcases success with ⟨⟨earlier, later⟩, both, same⟩
    rcases Parser.succeeds_both_iff.mp both with ⟨middle, started, ended⟩
    exact ⟨earlier, later, middle, same.symm, started, ended⟩
  · intro success
    rcases success with ⟨earlier, later, middle, same, started, ended⟩
    exact ⟨(earlier, later), Parser.succeeds_both_iff.mpr ⟨middle, started, ended⟩, same.symm⟩

theorem fails_both_iff :
    ((both first second).parser verbosity rules rounds).Fails input error ↔
      (first.parser verbosity rules rounds).Fails input error ∨
        ∃ earlier middle, (first.parser verbosity rules rounds).Succeeds input earlier middle ∧
          (second.parser verbosity rules rounds).Fails middle error :=
  Parser.fails_map_iff.trans Parser.fails_both_iff

theorem succeeds_optional_iff :
    (body.optional.parser verbosity rules rounds).Succeeds input value rest ↔
      (body.parser verbosity rules rounds).Succeeds input value rest ∨
        (∃ cause, (body.parser verbosity rules rounds).Fails input cause) ∧
          value = .nothing ∧ rest = input :=
  Parser.succeeds_orElse_iff.trans (or_congr Iff.rfl (and_congr Iff.rfl Parser.succeeds_pure_iff))

theorem not_fails_optional :
    ¬ (body.optional.parser verbosity rules rounds).Fails input error := by
  intro failure
  exact Parser.not_fails_pure (Parser.fails_orElse_iff.mp failure).2

theorem succeeds_notFollowedBy_iff :
    ((notFollowedBy body).parser verbosity rules rounds).Succeeds input value rest ↔
      (∃ cause, (body.parser verbosity rules rounds).Fails input cause) ∧
        value = .nothing ∧ rest = input := by
  refine Parser.succeeds_map_iff.trans ?_
  constructor
  · intro success
    rcases success with ⟨_, refused, same⟩
    rcases Parser.succeeds_notFollowedBy_iff.mp refused with ⟨left, failed⟩
    exact ⟨failed, same.symm, left⟩
  · intro success
    rcases success with ⟨failed, same, left⟩
    exact ⟨(), Parser.succeeds_notFollowedBy_iff.mpr ⟨left, failed⟩, same.symm⟩

theorem fails_notFollowedBy_iff :
    ((notFollowedBy body).parser verbosity rules rounds).Fails input error ↔
      ∃ found middle, (body.parser verbosity rules rounds).Succeeds input found middle ∧
        error = .message ("unexpected " ++ found.shown) (some input.length) :=
  Parser.fails_map_iff.trans Parser.fails_notFollowedBy_iff

end Grammar

end OrderedChoice
