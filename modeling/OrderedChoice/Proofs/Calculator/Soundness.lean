import OrderedChoice.Proofs.Calculator.Token
import OrderedChoice.Proofs.Chain

/-!
# Soundness of the calculator

Whatever a parser of the calculator matches is written as an expression of its level, and its
value is the number that the expression denotes.
-/

namespace OrderedChoice

/-- An operation on numbers faults where it divides by zero, and nowhere else. -/
theorem Value.apply_arithmetic (operation : Arithmetic) (first second : Float) :
    Value.apply (.operator (.arithmetic operation)) (.float first) (.float second) =
      if operation.dividesByZero second then .error .divisionByZero
      else .ok (.float (operation.compute first second)) := by
  cases operation with
  | add => rfl
  | subtract => rfl
  | multiply => rfl
  | divide =>
      change ((if second == 0.0 then .error .divisionByZero else .ok (first / second) :
        Except Fault Float) >>= fun number => .ok (Value.float number)) =
          if second == 0.0 then .error .divisionByZero else .ok (Value.float (first / second))
      cases second == 0.0 <;> rfl

theorem Value.eq_of_apply_arithmetic_ok {operation : Arithmetic} {first second : Float}
    {combined : Value} (applied : Value.apply (.operator (.arithmetic operation)) (.float first)
      (.float second) = .ok combined) : combined = .float (operation.compute first second) := by
  rw [apply_arithmetic] at applied
  split at applied
  · cases applied
  · exact (Except.ok.inj applied).symm

theorem Value.eq_of_apply_arithmetic_error {operation : Arithmetic} {first second : Float}
    {cause : Fault} (raised : Value.apply (.operator (.arithmetic operation)) (.float first)
      (.float second) = .error cause) : cause = .divisionByZero := by
  rw [apply_arithmetic] at raised
  split at raised
  · exact (Except.error.inj raised).symm
  · cases raised

namespace Calculator

open Scanner (AreBlanks)

variable {verbosity : Verbosity} {rules : Rule → Parser Value} {rounds : Nat}

/-- The value is the number that an expression denotes which is written as the taken text and in
which nothing is divided by zero. -/
structure Expresses (level : Level) (tree : Tree) (taken : List Char) (value : Value) : Prop where
  written : Written level tree taken
  defined : tree.dividesByZero = false
  value_eq : value = .float tree.result

/-- On text a parser matches expressions of a level only. -/
def IsSound (parser : Parser Value) (level : Level) : Prop :=
  ∀ {text value rest}, parser.Succeeds (.text text) value rest →
    ∃ tree taken after, Expresses level tree taken value ∧ text = taken ++ after ∧
      rest = .text after

/-! ## Chains -/

section Chain

variable {term operator : Parser Value} {level operand : Level} {found : List (Value × Value)}
  {input rest : Stream} {value : Value}

/-- Each link extends the expression in front of it by an operation and an operand. -/
theorem IsSound.linked (terms : IsSound term operand)
    (signs : ReadsSigns operator level operand)
    (linked : Parser.Linked term operator input found rest) {tree : Tree} {taken text : List Char}
    (isText : input = .text text) (written : Written level tree taken)
    (defined : tree.dividesByZero = false)
    (folded : Parser.foldLinksLeft Value.apply (.float tree.result) found = .ok value) :
    ∃ whole more after, Expresses level whole (taken ++ more) value ∧ text = more ++ after ∧
      rest = .text after := by
  induction linked generalizing tree taken text with
  | none input =>
      cases folded
      refine ⟨tree, [], text, ⟨?_, defined, rfl⟩, rfl, isText⟩
      rw [List.append_nil]
      exact written
  | link operated followed _ later =>
      subst isText
      rcases signs.sound operated with ⟨operation, sign, blanks, _, joins, areBlanks, rfl, rfl, rfl⟩
      rcases terms followed with ⟨second, right, behind, ⟨right_written, secondDefined, rfl⟩, rfl, rfl⟩
      rw [Parser.foldLinksLeft_cons, Value.apply_arithmetic] at folded
      cases divides : operation.dividesByZero second.result with
      | true =>
          rw [divides] at folded
          cases folded
      | false =>
          rw [divides] at folded
          have both : (Tree.binary operation tree second).dividesByZero = false := by
            rw [Tree.dividesByZero, defined, secondDefined, divides]
            rfl
          rcases later rfl (.binary joins written areBlanks right_written) both folded with
            ⟨whole, more, after, expresses, rfl, left⟩
          refine ⟨whole, sign :: (blanks ++ right) ++ more, after, ?_, ?_, left⟩
          · rw [← List.append_assoc]
            exact expresses
          · simp only [List.cons_append, List.append_assoc]

theorem IsSound.chainLeft (terms : IsSound term operand)
    (signs : ReadsSigns operator level operand)
    (lift : ∀ {tree taken}, Written operand tree taken → Written level tree taken) :
    IsSound (Parser.chainLeft rounds Value.apply term operator) level := by
  intro text value rest success
  rcases Parser.succeeds_chainLeft_iff.mp success with
    ⟨first, middle, found, started, linked, _, _, folded⟩
  rcases terms started with ⟨tree, taken, behind, ⟨written, defined, rfl⟩, rfl, isText⟩
  rcases terms.linked signs linked isText (lift written) defined folded with
    ⟨whole, more, after, expresses, rfl, left⟩
  exact ⟨whole, taken ++ more, after, expresses, (List.append_assoc _ _ _).symm, left⟩

end Chain

/-! ## Rules -/

theorem IsSound.expression (factors : IsSound (rules .factor) .factor) :
    IsSound (expression.parser verbosity rules rounds) .sum :=
  IsSound.chainLeft (IsSound.chainLeft factors readsSigns_multiplicative .product)
    readsSigns_additive .sum

theorem IsSound.factor (factors : IsSound (rules .factor) .factor)
    (expressions : IsSound (rules .expression) .sum) :
    IsSound (factor.parser verbosity rules rounds) .factor := by
  intro text value rest success
  rcases Parser.succeeds_orElse_iff.mp success with success | ⟨_, success⟩
  · rcases Parser.succeeds_orElse_iff.mp success with success | ⟨_, success⟩
    · rcases of_number success with ⟨numeral, blanks, after, isNumeral, areBlanks, rfl, rfl, left⟩
      exact ⟨.number numeral, numeral ++ blanks, after, ⟨.number isNumeral areBlanks, rfl, rfl⟩,
        (List.append_assoc _ _ _).symm, left⟩
    · rcases Parser.succeeds_mapM_iff.mp success with ⟨operand, success, negated⟩
      rcases Parser.succeeds_seqRight_iff.mp success with ⟨_, _, marked, followed⟩
      rcases of_mark marked with ⟨blanks, _, areBlanks, rfl, rfl⟩
      rcases factors followed with ⟨tree, taken, after, ⟨written, defined, rfl⟩, rfl, left⟩
      cases negated
      refine ⟨.negation tree, '-' :: (blanks ++ taken), after,
        ⟨.negation areBlanks written, defined, rfl⟩, ?_, left⟩
      simp only [List.cons_append, List.append_assoc]
  · rcases Parser.succeeds_seqLeft_iff.mp success with ⟨_, _, success, closed⟩
    rcases Parser.succeeds_seqRight_iff.mp success with ⟨_, _, marked, followed⟩
    rcases of_mark marked with ⟨blanks, _, areBlanks, rfl, rfl⟩
    rcases expressions followed with ⟨tree, inner, _, ⟨written, defined, rfl⟩, rfl, rfl⟩
    rcases of_mark closed with ⟨others, after, areOthers, rfl, left⟩
    refine ⟨tree, '(' :: (blanks ++ (inner ++ ')' :: others)), after,
      ⟨.parentheses areBlanks written areOthers, defined, rfl⟩, ?_, left⟩
    simp only [List.cons_append, List.append_assoc]

/-- The level of the expressions that a rule matches. -/
def Rule.level : Rule → Level
  | .expression => .sum
  | .factor => .factor

theorem isSound_ruleParser (depth : Nat) (rule : Rule) :
    IsSound (Grammar.ruleParser verbosity Calculator.rules rounds depth rule) rule.level := by
  induction depth generalizing rule with
  | zero =>
      intro text value rest success
      cases success
  | succ depth earlier =>
      cases rule with
      | expression => exact IsSound.expression (earlier .factor)
      | factor => exact IsSound.factor (earlier .factor) (earlier .expression)

/-- What the calculator matches, within any bound, is written as an expression. -/
theorem isExpression_of_parserWithin {bound : Nat} {text : List Char} {value : Value}
    {rest : Stream}
    (success : (grammar.parserWithin bound verbosity Calculator.rules).Succeeds (.text text) value
      rest) :
    ∃ tree taken after, IsExpression tree taken ∧ tree.dividesByZero = false ∧
      value = .float tree.result ∧ text = taken ++ after ∧ rest = .text after := by
  rcases Parser.succeeds_seqRight_iff.mp success with ⟨_, _, skipped, followed⟩
  rcases AreBlanks.of_skipMany skipped with ⟨blanks, _, areBlanks, rfl, rfl⟩
  rcases IsSound.expression (isSound_ruleParser _ .factor) followed with
    ⟨tree, taken, after, ⟨written, defined, rfl⟩, rfl, left⟩
  exact ⟨tree, blanks ++ taken, after, ⟨blanks, taken, areBlanks, written, rfl⟩, defined, rfl,
    (List.append_assoc _ _ _).symm, left⟩

end Calculator

end OrderedChoice
