import OrderedChoice.Proofs.Calculator.Soundness

/-!
# Completeness of the calculator

An expression is read as it is written.  Its parser gets to the end of it with the number that
it denotes, or stops at a division by zero; no part of it is read in another way.
-/

namespace OrderedChoice

namespace Parser

variable {α ω β : Type} {parser other : Parser α} {input : Stream}

/-- The second parser decides where the first one fails. -/
theorem outcome_orElse_of_fails (failure : ∃ error, parser.Fails input error) :
    (parser.orElse other input).outcome = (other input).outcome := by
  rcases failure with ⟨error, failed⟩
  refine (Run.outcome_bind _ _).trans ?_
  rw [failed]

theorem outcome_onSuccess_of_succeeds {next : α → Stream → Run (Result β)} {value : α}
    {rest : Stream} (success : parser.Succeeds input value rest) :
    (parser.onSuccess next input).outcome = (next value rest).outcome := by
  rw [outcome_onSuccess, success]

/-- A round goes on behind its operator. -/
theorem outcome_chainRound_of_succeeds {term : Parser α} {operator : Parser ω}
    {stop : Run (Result β)} {proceed : ω → α → Stream → Run (Result β)} {operation : ω}
    {behind : Stream} (success : operator.Succeeds input operation behind) :
    (chainRound term operator stop proceed input).outcome =
      (term.onSuccess (proceed operation) behind).outcome := by
  refine (Run.outcome_bind _ _).trans ?_
  rw [success, outcome_onSuccess]
  refine (Run.outcome_bind _ _).trans ?_
  cases (term behind).outcome with
  | error halt => rfl
  | ok result => cases result <;> rfl

end Parser

namespace Calculator

open Scanner (AreBlanks)

/-- Go on with the number that an expression denotes, unless it divides by zero. -/
def Tree.proceed (tree : Tree) (next : Float → Except Halt (Result Value)) :
    Except Halt (Result Value) :=
  if tree.dividesByZero then .error (.fault .divisionByZero) else next tree.result

/-- The outcome at the end of an expression, in front of what is left of the text. -/
def Tree.ending (tree : Tree) (after : List Char) : Except Halt (Result Value) :=
  tree.proceed fun number => .ok (.success (.float number) (.text after))

/-- A parser comes to the end of an expression, whatever closes it there. -/
def Completes (parser : Parser Value) (level : Level) (tree : Tree) (text : List Char) : Prop :=
  ∀ after, Closes level after →
    (parser (.text (text ++ after))).outcome = tree.ending after

namespace Tree

variable {tree : Tree} {parser : Parser Value} {input : Stream} {after : List Char}

/-- What follows a parser that comes to the end of an expression. -/
theorem proceed_onSuccess {next : Value → Stream → Run (Result Value)}
    (ended : (parser input).outcome = tree.ending after) :
    (parser.onSuccess next input).outcome =
      tree.proceed fun number => (next (.float number) (.text after)).outcome := by
  rw [Parser.outcome_onSuccess, ended, ending, proceed, proceed]
  cases tree.dividesByZero <;> rfl

/-- A parser that comes to the end of an expression has not failed. -/
theorem proceed_orElse {other : Parser Value}
    (ended : (parser input).outcome = tree.ending after) :
    (parser.orElse other input).outcome = tree.ending after := by
  refine (Run.outcome_bind _ _).trans ?_
  rw [ended, ending, proceed]
  cases tree.dividesByZero <;> rfl

/-- The operands of an operation are evaluated in order, and then it is applied. -/
theorem proceed_binary (operation : Arithmetic) (first second : Tree)
    (next : Float → Except Halt (Result Value)) :
    (Tree.binary operation first second).proceed next =
      first.proceed fun left => second.proceed fun right =>
        if operation.dividesByZero right then .error (.fault .divisionByZero)
        else next (operation.compute left right) := by
  unfold proceed
  rw [dividesByZero, result]
  cases first.dividesByZero <;> cases second.dividesByZero <;> rfl

end Tree

/-! ## Chains -/

section Chain

variable {term operator : Parser Value} {level operand : Level} {tree first second : Tree}
  {text left right : List Char} {rounds : Nat}

/-- A chain that has read an expression goes on behind it, with rounds to spare.  It has taken
at most one round for every character. -/
def Continues (term operator : Parser Value) (operand : Level) (tree : Tree)
    (text : List Char) : Prop :=
  ∃ links, links ≤ text.length ∧ ∀ rounds after, Closes operand after →
    (Parser.chainLeft (links + rounds) Value.apply term operator (.text (text ++ after))).outcome =
      tree.proceed fun number =>
        (Parser.chainLeftFrom Value.apply term operator rounds (.float number)
          (.text after)).outcome

theorem Completes.continues (completes : Completes term operand tree text) :
    Continues term operator operand tree text := by
  refine ⟨0, Nat.zero_le _, ?_⟩
  intro rounds after closes
  rw [Nat.zero_add]
  exact Tree.proceed_onSuccess (completes after closes)

/-- One more operation takes one more round. -/
theorem Continues.binary {operation : Arithmetic} {sign : Char} {blanks : List Char}
    (signs : ReadsSigns operator level operand) (joins : Joins level operand operation sign)
    (continues : Continues term operator operand first left) (areBlanks : AreBlanks blanks)
    (written : Written operand second right) (completes : Completes term operand second right) :
    Continues term operator operand (.binary operation first second)
      (left ++ sign :: (blanks ++ right)) := by
  rcases continues with ⟨links, few, continues⟩
  refine ⟨links + 1, ?_, ?_⟩
  · simp only [List.length_append, List.length_cons]
    omega
  intro rounds after closes
  have reshaped : left ++ sign :: (blanks ++ right) ++ after =
      left ++ (sign :: (blanks ++ (right ++ after))) := by
    simp only [List.append_assoc, List.cons_append]
  rw [reshaped, Nat.add_assoc, continues _ _ (closes_cons joins.follows _), Tree.proceed_binary]
  congr 1
  funext number
  rw [Nat.add_comm 1 rounds, Parser.chainLeftFrom_succ, Parser.outcome_chainRound_of_succeeds
    (signs.complete joins areBlanks (written.startsDark after))]
  refine (Tree.proceed_onSuccess (completes after closes)).trans ?_
  congr 1
  funext divisor
  rw [Value.apply_arithmetic]
  cases operation.dividesByZero divisor <;> rfl

/-- A chain ends where no operator of its own follows. -/
theorem Continues.completes (signs : ReadsSigns operator level operand)
    (wider : ∀ {after}, Closes level after → Closes operand after)
    (continues : Continues term operator operand tree text) (room : text.length < rounds) :
    Completes (Parser.chainLeft rounds Value.apply term operator) level tree text := by
  rcases continues with ⟨links, few, continues⟩
  intro after closes
  rcases Nat.exists_eq_add_of_lt (Nat.lt_of_le_of_lt few room) with ⟨spare, rfl⟩
  rw [Nat.add_assoc, continues _ _ (wider closes)]
  congr 1
  funext number
  rcases signs.fails closes with ⟨error, failed⟩
  rw [Parser.chainLeftFrom_succ]
  refine (Run.outcome_bind _ _).trans ?_
  rw [failed]
  rfl

end Chain

/-! ## Rules -/

section Rules

variable {rules : Rule → Parser Value} {rounds : Nat} {tree : Tree} {text : List Char}

/-- The products of factors among the expressions. -/
def products : Grammar Rule := .chainLeft (.rule .factor) multiplicative

theorem Completes.number {numeral blanks : List Char} (isNumeral : Scanner.IsNumeral numeral)
    (areBlanks : AreBlanks blanks) :
    Completes (factor.parser .warning rules rounds) .factor (.number numeral)
      (numeral ++ blanks) := by
  intro after closes
  refine Tree.proceed_orElse (Tree.proceed_orElse ?_)
  rw [List.append_assoc]
  exact succeeds_number isNumeral areBlanks closes

theorem Completes.negation {blanks operand : List Char} (areBlanks : AreBlanks blanks)
    (written : Written .factor tree operand)
    (completes : Completes (rules .factor) .factor tree operand) :
    Completes (factor.parser .warning rules rounds) .factor (.negation tree)
      ('-' :: (blanks ++ operand)) := by
  intro after closes
  rw [List.cons_append, List.append_assoc]
  have noNumber : ∃ error, ((lexeme Scanner.decimal).parser .warning rules rounds).Fails
      (.text ('-' :: (blanks ++ (operand ++ after)))) error :=
    fails_number rfl
  have followed : (((lexeme Scanner.minusSign).seqRight (.rule .factor)).parser .warning rules
      rounds (.text ('-' :: (blanks ++ (operand ++ after))))).outcome = tree.ending after :=
    (Parser.outcome_onSuccess_of_succeeds
      (succeeds_mark areBlanks (written.startsDark after))).trans (completes after closes)
  refine Tree.proceed_orElse ((Parser.outcome_orElse_of_fails noNumber).trans ?_)
  exact Tree.proceed_onSuccess followed

theorem Completes.parentheses {blanks inner others : List Char} (areBlanks : AreBlanks blanks)
    (written : Written .sum tree inner)
    (completes : Completes (rules .expression) .sum tree inner) (areOthers : AreBlanks others) :
    Completes (factor.parser .warning rules rounds) .factor tree
      ('(' :: (blanks ++ (inner ++ ')' :: others))) := by
  intro after closes
  have reshaped : '(' :: (blanks ++ (inner ++ ')' :: others)) ++ after =
      '(' :: (blanks ++ (inner ++ ')' :: (others ++ after))) := by
    simp only [List.cons_append, List.append_assoc]
  rw [reshaped]
  have noNumber : ∃ error, ((lexeme Scanner.decimal).parser .warning rules rounds).Fails
      (.text ('(' :: (blanks ++ (inner ++ ')' :: (others ++ after))))) error :=
    fails_number rfl
  have noMinus : ∃ error, ((((lexeme Scanner.minusSign).seqRight (.rule .factor)).map
      negate).parser .warning rules rounds).Fails
      (.text ('(' :: (blanks ++ (inner ++ ')' :: (others ++ after))))) error := by
    have absent : ∃ error, ((lexeme Scanner.minusSign).parser .warning rules rounds).Fails
        (.text ('(' :: (blanks ++ (inner ++ ')' :: (others ++ after))))) error :=
      fails_mark (by simp)
    exact absent.imp fun _ failed =>
      Parser.fails_mapM_iff.mpr (Parser.fails_seqRight_iff.mpr (Or.inl failed))
  refine (Parser.outcome_orElse_of_fails (Parser.exists_fails_orElse noNumber noMinus)).trans ?_
  have followed : (((lexeme (Scanner.exactCharacter '(')).seqRight (.rule .expression)).parser
      .warning rules rounds
      (.text ('(' :: (blanks ++ (inner ++ ')' :: (others ++ after)))))).outcome =
        tree.ending (')' :: (others ++ after)) :=
    (Parser.outcome_onSuccess_of_succeeds (succeeds_mark areBlanks (written.startsDark _))).trans
      (completes _ (closes_cons (by decide) _))
  refine (Tree.proceed_onSuccess followed).trans ?_
  congr 1
  funext number
  exact Parser.outcome_onSuccess_of_succeeds (succeeds_mark areOthers closes.startsDark)

end Rules

/-! ## Expressions -/

section Expressions

variable {rounds depth : Nat} {level : Level} {tree : Tree} {text : List Char}

/-- The parsers of the rules of the calculator, to a given depth. -/
def ruleParsers (rounds depth : Nat) : Rule → Parser Value :=
  Grammar.ruleParser .warning rules rounds depth

/-- The parser for the expressions of a level. -/
def Level.parser (rounds depth : Nat) : Level → Parser Value
  | .sum => expression.parser .warning (ruleParsers rounds depth) rounds
  | .product => products.parser .warning (ruleParsers rounds depth) rounds
  | .factor => ruleParsers rounds depth .factor

/-- An expression is read as it is written, at any depth that leaves room for it.  Sums and
products may go on behind it. -/
def Reaches (rounds depth : Nat) : Level → Tree → List Char → Prop
  | .sum => Continues (Level.parser rounds depth .product)
      (additive.parser .warning (ruleParsers rounds depth) rounds) .product
  | .product => Continues (Level.parser rounds depth .factor)
      (multiplicative.parser .warning (ruleParsers rounds depth) rounds) .factor
  | .factor => Completes (Level.parser rounds depth .factor) .factor

theorem Reaches.completes (reaches : Reaches rounds depth level tree text)
    (room : text.length < rounds) : Completes (level.parser rounds depth) level tree text := by
  cases level with
  | sum => exact Continues.completes readsSigns_additive Joins.plus.closes reaches room
  | product => exact Continues.completes readsSigns_multiplicative Joins.times.closes reaches room
  | factor => exact reaches

/-- No part of an expression is longer than the whole, and only parentheses and signs lead to
a greater depth. -/
theorem Written.reaches (written : Written level tree text) (room : text.length < rounds)
    (deep : text.length ≤ depth) : Reaches rounds depth level tree text := by
  induction written generalizing depth with
  | number isNumeral areBlanks =>
      have positive := (Written.number isNumeral areBlanks).length_pos
      rcases Nat.exists_eq_succ_of_ne_zero (Nat.ne_of_gt (Nat.lt_of_lt_of_le positive deep)) with
        ⟨depth, rfl⟩
      exact Completes.number isNumeral areBlanks
  | @negation tree blanks operand areBlanks written reaches =>
      simp only [List.length_append, List.length_cons] at room deep
      rcases Nat.exists_eq_add_of_le' (Nat.le_trans (Nat.le_add_left 1 _) deep) with ⟨depth, rfl⟩
      have shallow : operand.length ≤ depth := by omega
      exact Completes.negation areBlanks written (reaches (by omega) shallow)
  | @parentheses tree blanks inner others areBlanks written areOthers reaches =>
      simp only [List.length_append, List.length_cons] at room deep
      -- the parenthesis leads to the rule for expressions, and that one to the rule for factors
      rcases Nat.exists_eq_add_of_le' (show 2 ≤ depth by omega) with ⟨depth, rfl⟩
      have shallow : inner.length ≤ depth := by omega
      have enough : inner.length < rounds := by omega
      exact Completes.parentheses areBlanks written (Reaches.completes (reaches enough shallow)
        enough) areOthers
  | product _ reaches => exact Completes.continues (reaches room deep)
  | sum _ reaches => exact Completes.continues ((reaches room deep).completes room)
  | binary joins leftWritten areBlanks rightWritten leftReaches rightReaches =>
      simp only [List.length_append, List.length_cons] at room deep
      have left := leftReaches (by omega) (show _ ≤ depth by omega)
      have right := Reaches.completes (rightReaches (by omega) (show _ ≤ depth by omega))
        (by omega)
      have joined := joins
      cases joins with
      | plus | minus =>
          exact Continues.binary readsSigns_additive joined left areBlanks rightWritten right
      | times | divided =>
          exact Continues.binary readsSigns_multiplicative joined left areBlanks rightWritten right

/-- A whole expression is read as it is written, within a bound above its length. -/
theorem IsExpression.outcome_parserWithin {bound : Nat} (isExpression : IsExpression tree text)
    (room : text.length < bound) :
    (grammar.parserWithin bound .warning rules (.text text)).outcome = tree.ending [] := by
  rcases isExpression with ⟨blanks, sum, areBlanks, written, rfl⟩
  rw [List.length_append] at room
  have enough : sum.length < bound := by omega
  have completes := Reaches.completes (written.reaches enough (Nat.le_of_lt enough)) enough
  have dark := written.startsDark []
  have ended := completes [] (closes_nil _)
  rw [List.append_nil] at dark ended
  exact (Parser.outcome_onSuccess_of_succeeds (areBlanks.skipMany dark)).trans ended

end Expressions

end Calculator

end OrderedChoice
