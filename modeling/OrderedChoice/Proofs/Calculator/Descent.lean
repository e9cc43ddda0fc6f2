import OrderedChoice.Proofs.Calculator.Ending
import OrderedChoice.Proofs.Calculator.Evaluation
import OrderedChoice.Proofs.Grammar.Consumption
import OrderedChoice.Proofs.Parser.Answer
import OrderedChoice.Proofs.Parser.Simulation

/-!
# The descent of the calculator

Inside a factor the rules of the calculator are entered on shorter rests only.  This is said by
rules that refuse to be entered anywhere else: they end as the rules of the calculator do, so
the refusal is never met.  Each round of a chain makes its rest shorter as well, and the white
space between the tokens is always skipped.
-/

namespace OrderedChoice

namespace Calculator

variable {verbosity : Verbosity} {rounds depth limit : Nat} {input : Stream}

/-! ## What the parts take -/

theorem leavesPlace_spaces : spaces.Everywhere Grammar.LeavesPlace :=
  ⟨trivial, trivial, trivial, ⟨trivial, ⟨trivial, trivial, trivial⟩, trivial⟩, trivial⟩

theorem leavesPlace_lexeme {token : Grammar Rule} (leaves : token.Everywhere Grammar.LeavesPlace) :
    (lexeme token).Everywhere Grammar.LeavesPlace :=
  ⟨trivial, leaves, leavesPlace_spaces⟩

theorem leavesPlace_signs (first second : Char) (operation other : Arithmetic) :
    (signs first second operation other).Everywhere Grammar.LeavesPlace :=
  leavesPlace_lexeme ⟨trivial, ⟨trivial, trivial⟩, trivial, trivial⟩

theorem leavesPlace_products : products.Everywhere Grammar.LeavesPlace :=
  ⟨trivial, trivial, leavesPlace_signs '*' '/' .multiply .divide⟩

theorem leavesPlace_expression : expression.Everywhere Grammar.LeavesPlace :=
  ⟨trivial, leavesPlace_products, leavesPlace_signs '+' '-' .add .subtract⟩

theorem leavesPlace_factor : factor.Everywhere Grammar.LeavesPlace := by
  have mark : ∀ character,
      (lexeme (Scanner.exactCharacter character)).Everywhere Grammar.LeavesPlace :=
    fun _ => leavesPlace_lexeme trivial
  exact ⟨trivial, ⟨trivial, leavesPlace_lexeme ⟨trivial, trivial⟩, trivial, trivial, mark '-',
    trivial⟩, trivial, ⟨trivial, mark '(', trivial⟩, mark ')'⟩

theorem leavesPlace_rules (rule : Rule) : (rules rule).Everywhere Grammar.LeavesPlace := by
  cases rule with
  | expression => exact leavesPlace_expression
  | factor => exact leavesPlace_factor

theorem composed_rules (rule : Rule) : (rules rule).Everywhere Grammar.IsComposed :=
  (leavesPlace_rules rule).mono fun _ => Grammar.IsComposed.of_leavesPlace

/-- No rule gives back more than it was given. -/
theorem neverLengthens_ruleParser (rule : Rule) :
    (Grammar.ruleParser verbosity rules rounds depth rule).NeverLengthens :=
  fun bound => Grammar.keeps_ruleParser composed_rules (Grammar.isRegion_short bound) depth rule

theorem progresses_lexeme {token : Grammar Rule} (consuming : Grammar.IsConsuming token) :
    ((lexeme token).parser verbosity (Grammar.ruleParser verbosity rules rounds depth)
      rounds).Progresses := by
  have composed : spaces.Everywhere Grammar.IsComposed :=
    leavesPlace_spaces.mono fun _ => Grammar.IsComposed.of_leavesPlace
  exact (Grammar.IsConsuming.seqLeftFirst consuming composed).progresses
    neverLengthens_ruleParser

/-! ## The rounds of a chain -/

/-- A round of a chain, an operator and a term behind it, leaves less than it was given. -/
def ShortensRounds (term operator : Parser Value) : Prop :=
  ∀ input operation behind operand middle, operator.Succeeds input operation behind →
    term.Succeeds behind operand middle → middle.length < input.length

theorem shortensRounds {term operator : Parser Value} (never : term.NeverLengthens)
    (progresses : operator.Progresses) : ShortensRounds term operator := by
  intro input operation behind operand middle operated followed
  have behindShorter := progresses input operation behind operated
  have middleShorter := never.length_le followed
  exact Nat.lt_of_le_of_lt middleShorter behindShorter

theorem progresses_signs (first second : Char) (operation other : Arithmetic) :
    ((signs first second operation other).parser verbosity
      (Grammar.ruleParser verbosity rules rounds depth) rounds).Progresses :=
  progresses_lexeme (.orElse (.map _ (.token _ _ _)) (.map _ (.token _ _ _)))

theorem shortensRounds_products :
    ShortensRounds (Grammar.ruleParser verbosity rules rounds depth .factor)
      (multiplicative.parser verbosity (Grammar.ruleParser verbosity rules rounds depth) rounds) :=
  shortensRounds (neverLengthens_ruleParser .factor) (progresses_signs '*' '/' .multiply .divide)

theorem shortensRounds_expression :
    ShortensRounds
      (products.parser verbosity (Grammar.ruleParser verbosity rules rounds depth) rounds)
      (additive.parser verbosity (Grammar.ruleParser verbosity rules rounds depth) rounds) := by
  have composed : products.Everywhere Grammar.IsComposed :=
    leavesPlace_products.mono fun _ => Grammar.IsComposed.of_leavesPlace
  have never : (products.parser verbosity (Grammar.ruleParser verbosity rules rounds depth)
      rounds).NeverLengthens :=
    fun bound => Grammar.keeps_of_composed composed
      (fun rule => neverLengthens_ruleParser rule bound) (Grammar.isRegion_short bound)
  exact shortensRounds never (progresses_signs '+' '-' .add .subtract)

/-! ## White space -/

theorem progresses_blank :
    ((Scanner.blank : Grammar Rule).parser verbosity
      (Grammar.ruleParser verbosity rules rounds depth) rounds).Progresses :=
  (Grammar.IsConsuming.of_mem_parsers Scanner.blank (by simp [Scanner.parsers])).progresses
    neverLengthens_ruleParser

theorem succeeds_spaces (input : Stream) :
    ∃ rest, (spaces.parser verbosity (Grammar.ruleParser verbosity rules rounds depth)
      rounds).Succeeds input .nothing rest := by
  have halts : Run.HaltsOnly (fun _ => False) (spaces.parser verbosity
      (Grammar.ruleParser verbosity rules rounds depth) rounds input) :=
    holds_spaces (Run.isCompositional_haltsOnly fun _ => False) input
  rcases (Parser.answers_of_not_halts halts).cases with ⟨value, rest, success⟩ | ⟨error, failure⟩
  · rcases Parser.succeeds_mapM_iff.mp success with ⟨_, _, forgotten⟩
    cases forgotten
    exact ⟨rest, success⟩
  · exact absurd (Parser.fails_map_iff.mp (Parser.fails_mapM_iff.mp failure))
      progresses_blank.not_fails_repeated

/-! ## Rules that insist on descending -/

/-- The rules of the calculator, entered on inputs below a limit only.  Inside a factor the limit
is the length of its input, and an expression hands on the limit that it has. -/
def descendingParser (verbosity : Verbosity) (rounds : Nat) :
    (depth limit : Nat) → Rule → Parser Value
  | 0, _, _ => fun _ => .exhausted
  | depth + 1, limit, rule => fun input =>
      let inner := match rule with
        | .factor => input.length
        | .expression => limit
      if input.length < limit then
        (rules rule).parser verbosity (descendingParser verbosity rounds depth inner) rounds input
      else .fault (.raised "entered without descending")

/-- The same stream, below the limit. -/
def Below (limit : Nat) (input image : Stream) : Prop := input = image ∧ input.length < limit

variable {descending : Rule → Parser Value}

/-- A factor comes back to a rule behind a token only. -/
theorem carries_factor
    (simulates : ∀ rule, Parser.Simulation (Below input.length) (fun _ => True)
      (Grammar.ruleParser verbosity rules rounds depth rule) (descending rule)) :
    Parser.Carries (Below input.length) (fun _ => True)
      (factor.parser verbosity (Grammar.ruleParser verbosity rules rounds depth) rounds
        input).outcome
      (factor.parser verbosity descending rounds input).outcome := by
  have token : ∀ {token : Grammar Rule}, Grammar.IsConsuming token →
      Parser.Carries (Below input.length) (fun _ => True)
        ((lexeme token).parser verbosity (Grammar.ruleParser verbosity rules rounds depth) rounds
          input).outcome
        ((lexeme token).parser verbosity (Grammar.ruleParser verbosity rules rounds depth) rounds
          input).outcome :=
    fun consuming => Parser.carries_self (progresses_lexeme consuming input)
  have mark : ∀ character, Grammar.IsConsuming (Scanner.exactCharacter character : Grammar Rule) :=
    fun _ => .token _ _ _
  have negation : Parser.Carries (Below input.length) (fun _ => True)
      ((((lexeme Scanner.minusSign).seqRight (.rule .factor)).map negate).parser verbosity
        (Grammar.ruleParser verbosity rules rounds depth) rounds input).outcome
      ((((lexeme Scanner.minusSign).seqRight (.rule .factor)).map negate).parser verbosity
        descending rounds input).outcome := by
    refine Parser.Carries.onSuccess
      (Parser.Carries.onSuccess (token (mark '-')) fun _ => simulates .factor) ?_
    intro value rest final alike
    exact Parser.carries_ofExcept fun changed => Parser.carries_accept changed alike
  have parentheses : Parser.Carries (Below input.length) (fun _ => True)
      ((Grammar.between (lexeme (Scanner.exactCharacter '(')) (lexeme (Scanner.exactCharacter ')'))
        (.rule .expression)).parser verbosity
        (Grammar.ruleParser verbosity rules rounds depth) rounds input).outcome
      ((Grammar.between (lexeme (Scanner.exactCharacter '(')) (lexeme (Scanner.exactCharacter ')'))
        (.rule .expression)).parser verbosity descending rounds input).outcome := by
    refine Parser.Carries.onSuccess
      (Parser.Carries.onSuccess (token (mark '(')) fun _ => simulates .expression) ?_
    intro value middle other alike
    rcases alike with ⟨rfl, short⟩
    refine Parser.Carries.onSuccess (Parser.carries_self ?_) ?_
    · intro found rest success
      exact Nat.lt_trans (progresses_lexeme (mark ')') middle found rest success) short
    · intro _ rest final alike
      exact Parser.carries_accept value alike
  exact ((token .decimal).orElse negation).orElse parentheses

/-- An expression hands every rest of its input to the rules. -/
theorem simulation_expression
    (simulates : ∀ rule, Parser.Simulation (Below limit) (fun _ => True)
      (Grammar.ruleParser verbosity rules rounds depth rule) (descending rule)) :
    Parser.Simulation (Below limit) (fun _ => True)
      (expression.parser verbosity (Grammar.ruleParser verbosity rules rounds depth) rounds)
      (expression.parser verbosity descending rounds) := by
  have operator : ∀ first second operation other, Parser.Simulation (Below limit) (fun _ => True)
      ((signs first second operation other).parser verbosity
        (Grammar.ruleParser verbosity rules rounds depth) rounds)
      ((signs first second operation other).parser verbosity
        (Grammar.ruleParser verbosity rules rounds depth) rounds) := by
    intro first second operation other input image alike
    rcases alike with ⟨rfl, short⟩
    refine Parser.carries_self ?_
    intro value rest success
    exact Nat.lt_trans (progresses_signs first second operation other input value rest success)
      short
  exact ((simulates .factor).chainLeft (operator '*' '/' .multiply .divide) rounds
    Value.apply).chainLeft (operator '+' '-' .add .subtract) rounds Value.apply

theorem simulation_descendingParser (depth limit : Nat) (rule : Rule) :
    Parser.Simulation (Below limit) (fun _ => True)
      (Grammar.ruleParser verbosity rules rounds depth rule)
      (descendingParser verbosity rounds depth limit rule) := by
  induction depth generalizing limit rule with
  | zero => exact fun _ _ _ _ => rfl
  | succ depth shallower =>
      intro input image alike
      rcases alike with ⟨rfl, short⟩
      rw [descendingParser]
      simp only [if_pos short]
      cases rule with
      | factor =>
          refine (carries_factor (shallower input.length)).mono ?_
          intro rest final below
          exact ⟨below.1, Nat.lt_trans below.2 short⟩
      | expression => exact simulation_expression (shallower limit) input input ⟨rfl, short⟩

/-- The calculator whose rules insist on descending ends as the calculator does. -/
theorem outcome_descending (bound : Nat) (input : Stream) :
    (grammar.parser verbosity (descendingParser verbosity bound bound (input.length + 1)) bound
        input).outcome =
      (grammar.parserWithin bound verbosity rules input).outcome := by
  have expressions : Parser.Simulation (Below (input.length + 1)) (fun _ => True)
      (expression.parser verbosity (Grammar.ruleParser verbosity rules bound bound) bound)
      (expression.parser verbosity
        (descendingParser verbosity bound bound (input.length + 1)) bound) :=
    simulation_expression (simulation_descendingParser bound (input.length + 1))
  have never : (spaces.parser verbosity (Grammar.ruleParser verbosity rules bound bound)
      bound).NeverLengthens :=
    fun limit => Grammar.keeps_of_composed
      (leavesPlace_spaces.mono fun _ => Grammar.IsComposed.of_leavesPlace)
      (fun rule => neverLengthens_ruleParser rule limit) (Grammar.isRegion_short limit)
  have carries : Parser.Carries (Below (input.length + 1)) (fun _ => True)
      (grammar.parserWithin bound verbosity rules input).outcome
      (grammar.parser verbosity (descendingParser verbosity bound bound (input.length + 1)) bound
        input).outcome := by
    refine Parser.Carries.onSuccess (Parser.carries_self ?_) fun _ => expressions
    intro value rest success
    exact Nat.lt_succ_of_le (never.length_le success)
  exact carries.outcome_eq fun _ _ below => below.1

/-- The calculator ends on every text, when its bound has room for the text: it yields a number,
or it reports an error at a place of the text, or a number is divided by zero.  Inside a factor
it enters its rules on shorter rests only, each round of its chains shortens what is left, and
skipping white space never fails. -/
theorem calculator_ends (verbosity : Verbosity) {bound : Nat} (text : List Char)
    (room : 2 * text.length < bound) :
    let parser := grammar.parserWithin bound verbosity rules
    let rulesWithin := Grammar.ruleParser verbosity rules bound
    ((∃ number rest, parser.Succeeds (.text text) (.float number) rest) ∨
      (∃ error, ∃ remaining : Nat, parser.Fails (.text text) error ∧
        error.remaining = some (remaining : Int) ∧ remaining ≤ text.length) ∨
      (parser (.text text)).outcome = .error (.fault .divisionByZero) ∧
        Fault.divisionByZero.message = "Division by zero") ∧
    (grammar.parser verbosity (descendingParser verbosity bound bound (text.length + 1)) bound
        (.text text)).outcome = (parser (.text text)).outcome ∧
    (∀ depth, ShortensRounds (rulesWithin depth .factor)
        (multiplicative.parser verbosity (rulesWithin depth) bound) ∧
      ShortensRounds (products.parser verbosity (rulesWithin depth) bound)
        (additive.parser verbosity (rulesWithin depth) bound)) ∧
    ∀ depth input, ∃ rest,
      (spaces.parser verbosity (rulesWithin depth) bound).Succeeds input .nothing rest := by
  intro parser rulesWithin
  refine ⟨?_, outcome_descending bound (.text text),
    fun depth => ⟨shortensRounds_products, shortensRounds_expression⟩,
    fun depth input => succeeds_spaces input⟩
  have ends : EndsOrDivides (parser (.text text)) := endsOrDivides_parserWithin room
  cases ended : (parser (.text text)).outcome with
  | error halt =>
      cases ends halt ended
      exact Or.inr (Or.inr ⟨rfl, rfl⟩)
  | ok result =>
      cases result with
      | success value rest =>
          rcases isExpression_of_parserWithin ended with ⟨tree, _, _, _, _, rfl, _, _⟩
          exact Or.inl ⟨tree.result, rest, ended⟩
      | failure error =>
          have leaves : grammar.Everywhere Grammar.LeavesPlace :=
            ⟨trivial, leavesPlace_spaces, leavesPlace_expression⟩
          rcases Grammar.reports_within leavesPlace_rules leaves bound text.length (.text text)
            (Nat.le_refl _) error ended with ⟨remaining, within, located⟩
          exact Or.inr (Or.inl ⟨error, remaining, ended, located, within⟩)

/-- A number in parentheses, divided by zero. -/
theorem calculator_ends_dividing :
    let text := ['(', '1', ')', '/', '0']
    let parser := grammar.parserWithin 11 .warning rules
    2 * text.length < 11 ∧
      (parser (.text text)).outcome = .error (.fault .divisionByZero) ∧
      Fault.divisionByZero.message = "Division by zero" ∧
      (grammar.parser .warning (descendingParser .warning 11 11 6) 11 (.text text)).outcome =
        .error (.fault .divisionByZero) := by
  intro text parser
  have room : 2 * text.length < 11 := by decide
  have quotient : Written .sum (.binary .divide (.number ['1']) (.number ['0'])) text :=
    .sum (.binary .divided (.product (.parentheses .none
      (.sum (.product (written_digit rfl .none))) .none)) .none (written_digit rfl .none))
  have isExpression : IsExpression (.binary .divide (.number ['1']) (.number ['0'])) text :=
    ⟨[], text, .none, quotient, rfl⟩
  have ended : (parser (.text text)).outcome = .error (.fault .divisionByZero) := by
    refine (isExpression.outcome_parserWithin (by decide)).trans ?_
    rw [Tree.ending, Tree.proceed, show Tree.dividesByZero _ = true by decide]
    rfl
  rcases calculator_ends .warning text room with ⟨ends, descends, _⟩
  rcases ends with ⟨number, rest, success⟩ | ⟨error, _, failure, _⟩ | ⟨divided, worded⟩
  · cases ended.symm.trans success
  · cases ended.symm.trans failure
  · exact ⟨room, divided, worded, descends.trans divided⟩

end Calculator

end OrderedChoice
