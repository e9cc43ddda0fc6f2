import OrderedChoice.Proofs.Calculator.Completeness
import OrderedChoice.Proofs.Parser.Whole

/-!
# What the calculator computes

The calculator computes the numbers of exactly those texts that are written expressions.
-/

namespace OrderedChoice

namespace Calculator

open Scanner (AreBlanks)

variable {tree other : Tree} {text : List Char}

theorem IsExpression.outcome_parse (isExpression : IsExpression tree text) :
    (grammar.parse .warning rules (.text text)).outcome = tree.ending [] :=
  isExpression.outcome_parserWithin (Grammar.length_lt_ampleBound (.text text))

/-- In whichever way a text is read as an expression, it denotes the same number, or divides by
zero. -/
theorem IsExpression.result_unique (first : IsExpression tree text)
    (second : IsExpression other text) :
    tree.dividesByZero = other.dividesByZero ∧
      (tree.dividesByZero = false → tree.result = other.result) := by
  have same := first.outcome_parse.symm.trans second.outcome_parse
  unfold Tree.ending Tree.proceed at same
  cases firstDivides : tree.dividesByZero <;> cases secondDivides : other.dividesByZero <;>
    rw [firstDivides, secondDivides] at same
  · have sameResult : tree.result = other.result := by
      simpa only [Bool.false_eq_true, if_false, Except.ok.injEq, Result.success.injEq,
        Value.float.injEq, and_true] using same
    exact ⟨rfl, fun _ => sameResult⟩
  · cases same
  · cases same
  · exact ⟨rfl, fun defined => nomatch defined⟩

/-- The calculator returns the number that a written expression denotes, and faults where that
divides by zero.  It returns nothing for any other text. -/
theorem evaluates_written (text : List Char) (name : String) :
    (∀ value, (evaluate (.text text) name).outcome = .ok value ↔
      ∃ tree, IsExpression tree text ∧ tree.dividesByZero = false ∧ value = .float tree.result) ∧
    (∀ tree, IsExpression tree text → tree.dividesByZero = true →
      (evaluate (.text text) name).outcome = .error (.fault .divisionByZero) ∧
        Fault.divisionByZero.message = "Division by zero") ∧
    ((∀ tree, ¬ IsExpression tree text) →
      ∀ value, (evaluate (.text text) name).outcome ≠ .ok value) := by
  have returns : ∀ value, (evaluate (.text text) name).outcome = .ok value ↔
      ∃ tree, IsExpression tree text ∧ tree.dividesByZero = false ∧
        value = .float tree.result := by
    intro value
    refine Parser.returns_parseAll_iff.trans ?_
    constructor
    · intro returned
      rcases returned with ⟨rest, success, ended⟩
      change (grammar.parserWithin (Grammar.ampleBound (.text text)) .warning rules
        (.text text)).outcome = _ at success
      rcases isExpression_of_parserWithin success with
        ⟨tree, taken, after, isExpression, defined, rfl, rfl, rfl⟩
      cases after with
      | nil =>
          rw [List.append_nil]
          exact ⟨tree, isExpression, defined, rfl⟩
      | cons first others => cases ended
    · intro expressed
      rcases expressed with ⟨tree, isExpression, defined, rfl⟩
      refine ⟨.text [], isExpression.outcome_parse.trans ?_, rfl⟩
      rw [Tree.ending, Tree.proceed, defined]
      rfl
  refine ⟨returns, ?_, ?_⟩
  · intro tree isExpression divides
    refine ⟨Parser.raises_parseAll_iff.mpr (Or.inl (isExpression.outcome_parse.trans ?_)), rfl⟩
    rw [Tree.ending, Tree.proceed, divides]
    rfl
  · intro unwritten value returned
    rcases (returns value).mp returned with ⟨tree, isExpression, _⟩
    exact unwritten tree isExpression

theorem written_digit {digit : Char} {blanks : List Char} (isDigit : digit.isDigit = true)
    (areBlanks : AreBlanks blanks) :
    Written .factor (.number [digit]) (digit :: blanks) := by
  refine .number (.whole ⟨List.cons_ne_nil _ _, ?_⟩) areBlanks
  intro character member
  rw [List.mem_singleton.mp member]
  exact isDigit

/-- Products bind tighter than sums, and parentheses tighter than both. -/
theorem evaluates_products_first :
    (evaluate (.text "2 + 3*4".toList) "").outcome =
        .ok (.float (Decimal.read ['2'] + Decimal.read ['3'] * Decimal.read ['4'])) ∧
      (evaluate (.text "1 / (2 - 2)".toList) "").outcome = .error (.fault .divisionByZero) := by
  have space : AreBlanks [' '] := .more .space .none
  have product : Written .product (.binary .multiply (.number ['3']) (.number ['4']))
      "3*4".toList :=
    .binary .times (.product (written_digit rfl .none)) .none (written_digit rfl .none)
  have sum : Written .sum
      (.binary .add (.number ['2']) (.binary .multiply (.number ['3']) (.number ['4'])))
      "2 + 3*4".toList :=
    .binary .plus (.sum (.product (written_digit rfl space))) space product
  have zero : Written .sum (.binary .subtract (.number ['2']) (.number ['2'])) "2 - 2".toList :=
    .binary .minus (.sum (.product (written_digit rfl space))) space
      (.product (written_digit rfl .none))
  have quotient : Written .sum
      (.binary .divide (.number ['1']) (.binary .subtract (.number ['2']) (.number ['2'])))
      "1 / (2 - 2)".toList :=
    .sum (.binary .divided (.product (written_digit rfl space)) space
      (.parentheses .none zero .none))
  refine ⟨((evaluates_written _ _).1 _).mpr ⟨_, ⟨[], _, .none, sum, rfl⟩, rfl, rfl⟩, ?_⟩
  exact ((evaluates_written _ _).2.1 _ ⟨[], _, .none, quotient, rfl⟩ (by decide)).1

end Calculator

end OrderedChoice
