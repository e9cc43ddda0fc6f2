import OrderedChoice.Proofs.Calculator.Soundness
import OrderedChoice.Proofs.Grammar.Location
import OrderedChoice.Proofs.Parser.Fault

/-!
# How the calculator ends

Neither chain of the calculator insists that a round takes something, and its rules refer to
each other in a circle.  It ends on every text nevertheless: every sign and every parenthesis
takes a character before a rule is entered again, so a text of some length asks for no more
rounds and no more depth than that length pays for.  Values are numbers throughout, and the only
thing that can go wrong with numbers is a division by zero.
-/

namespace OrderedChoice

namespace Calculator

open Scanner (AreBlanks)

variable {α : Type} {verbosity : Verbosity} {rules : Rule → Parser Value} {rounds limit : Nat}
  {text : List Char}

/-- The run returns, or it ends with a division by zero. -/
def EndsOrDivides (run : Run α) : Prop := run.HaltsOnly (· = .fault .divisionByZero)

theorem isCompositional_endsOrDivides : Run.IsCompositional EndsOrDivides :=
  Run.isCompositional_haltsOnly _

/-! ## Tokens

Tokens call no function that could go wrong, and no rule. -/

section Tokens

variable {property : ∀ {α : Type}, Run α → Prop}

theorem holds_exactCharacter (compositional : Run.IsCompositional property) (character : Char)
    (input : Stream) :
    property
      ((Scanner.exactCharacter character : Grammar Rule).parser verbosity rules rounds input) := by
  refine compositional.token ?_ _ _
  intro element _
  exact compositional.answer _

theorem holds_blank (compositional : Run.IsCompositional property) (input : Stream) :
    property ((Scanner.blank : Grammar Rule).parser verbosity rules rounds input) := by
  have character : ∀ mark, property
      ((Scanner.exactCharacter mark : Grammar Rule).parser verbosity rules rounds input) :=
    fun mark => holds_exactCharacter compositional mark input
  refine compositional.orElse ?_ fun _ => character '\t'
  refine compositional.orElse ?_ fun _ => compositional.tokens _ _ _ input
  exact compositional.orElse (character ' ') fun _ => character '\n'

theorem holds_spaces (compositional : Run.IsCompositional property) (input : Stream) :
    property (spaces.parser verbosity rules rounds input) := by
  have blanks : ∀ input, True →
      property ((Scanner.blank : Grammar Rule).parser verbosity rules rounds input) :=
    fun input _ => holds_blank compositional input
  have repeats := compositional.repeated blanks (fun _ _ _ _ _ => trivial) 0 "skip_many" input
    trivial
  refine compositional.mapM (compositional.map repeats _) ?_
  intro value rest _
  exact compositional.answer _

theorem holds_lexeme {token : Grammar Rule} {input : Stream}
    (compositional : Run.IsCompositional property)
    (holds : property (token.parser verbosity rules rounds input)) :
    property ((lexeme token).parser verbosity rules rounds input) :=
  compositional.seqLeft holds fun _ middle _ => holds_spaces compositional middle

theorem holds_signs (compositional : Run.IsCompositional property) (first second : Char)
    (operation other : Arithmetic) (input : Stream) :
    property ((signs first second operation other).parser verbosity rules rounds input) := by
  have sign : ∀ mark operation, property
      ((sign (Scanner.exactCharacter mark) operation).parser verbosity rules rounds input) := by
    intro mark operation
    refine compositional.mapM (holds_exactCharacter compositional mark input) ?_
    intro value rest _
    exact compositional.answer _
  exact holds_lexeme compositional
    (compositional.orElse (sign first operation) fun _ => sign second other)

theorem holds_decimal (compositional : Run.IsCompositional property) (text : List Char) :
    property ((Scanner.decimal : Grammar Rule).parser verbosity rules rounds (.text text)) := by
  refine compositional.mapM (compositional.matching_text rfl text) ?_
  intro value rest success
  rcases Scanner.IsNumeral.of_matching success with ⟨numeral, _, isNumeral, _, rfl, _⟩
  rw [isNumeral.floatingValue]
  exact compositional.answer _

end Tokens

/-! ## Chains -/

/-- A chain ends when its terms end on every text that is short enough to leave room for its
rounds.  Each round is one character shorter than the one before it at least. -/
theorem endsOrDivides_chainLeft {term operator : Parser Value} {level operand : Level}
    (terms : IsSound term operand) (signs : ReadsSigns operator level operand)
    (termEnds : ∀ text : List Char, text.length < limit → EndsOrDivides (term (.text text)))
    (operatorEnds : ∀ input, EndsOrDivides (operator input)) (room : limit ≤ rounds)
    (short : text.length < limit) :
    EndsOrDivides (Parser.chainLeft rounds Value.apply term operator (.text text)) := by
  -- What is accumulated is a number, and the rounds that are left exceed the text that is left.
  let invariant : Nat → Value → Stream → Prop := fun rounds accumulated input =>
    ∃ number text, accumulated = .float number ∧ input = .text text ∧ text.length < rounds ∧
      text.length < limit
  have round : ∀ rounds accumulated input, invariant (rounds + 1) accumulated input →
      Run.IsCompositional.KeepsRound EndsOrDivides Value.apply term operator invariant rounds
        accumulated input := by
    intro rounds accumulated input holds
    rcases holds with ⟨number, text, rfl, rfl, left, short⟩
    -- An operator takes its sign and a term gives nothing back.
    have linked : ∀ {operation behind operand middle},
        operator.Succeeds (.text text) operation behind → term.Succeeds behind operand middle →
        ∃ found second after, operation = .operator (.arithmetic found) ∧
          operand = .float second ∧ middle = .text after ∧ after.length < text.length := by
      intro operation behind operand middle operated followed
      rcases signs.sound operated with ⟨found, sign, blanks, others, _, _, rfl, rfl, rfl⟩
      rcases terms followed with ⟨tree, taken, after, ⟨_, _, rfl⟩, rfl, rfl⟩
      refine ⟨found, tree.result, after, rfl, rfl, rfl, ?_⟩
      simp only [List.length_cons, List.length_append]
      omega
    constructor
    · exact operatorEnds (.text text)
    · intro operation behind operated
      rcases signs.sound operated with ⟨found, sign, blanks, others, _, _, rfl, rfl, rfl⟩
      refine termEnds others ?_
      simp only [List.length_cons, List.length_append] at short
      omega
    · intro operation behind operand middle operated followed
      rcases linked operated followed with ⟨found, second, after, rfl, rfl, rfl, _⟩
      refine Run.haltsOnly_ofExcept ?_
      intro cause raised
      rw [Value.eq_of_apply_arithmetic_error raised]
    · intro operation behind operand middle combined operated followed applied
      rcases linked operated followed with ⟨found, second, after, rfl, rfl, rfl, shorter⟩
      rw [Value.eq_of_apply_arithmetic_ok applied]
      exact ⟨_, after, rfl, rfl, by omega, by omega⟩
  refine isCompositional_endsOrDivides.onSuccess (termEnds text short) ?_
  intro first middle started
  rcases terms started with ⟨tree, taken, after, ⟨_, _, rfl⟩, rfl, rfl⟩
  have afterShort : after.length < limit := by
    rw [List.length_append] at short
    omega
  refine isCompositional_endsOrDivides.chainLeftFrom invariant ?_ round
    ⟨tree.result, after, rfl, rfl, Nat.lt_of_lt_of_le afterShort room, afterShort⟩
  intro accumulated input holds
  rcases holds with ⟨_, _, _, _, none, _⟩
  exact absurd none (Nat.not_lt_zero _)

/-! ## Rules -/

theorem endsOrDivides_expression (factors : IsSound (rules .factor) .factor)
    (factorEnds : ∀ text : List Char, text.length < limit →
      EndsOrDivides (rules .factor (.text text)))
    (room : limit ≤ rounds) (short : text.length < limit) :
    EndsOrDivides (expression.parser verbosity rules rounds (.text text)) := by
  have operatorEnds : ∀ first second operation other input, EndsOrDivides
      ((signs first second operation other).parser verbosity rules rounds input) :=
    holds_signs isCompositional_endsOrDivides
  refine endsOrDivides_chainLeft (IsSound.chainLeft factors readsSigns_multiplicative .product)
    readsSigns_additive ?_ (operatorEnds '+' '-' .add .subtract) room short
  intro text short
  exact endsOrDivides_chainLeft factors readsSigns_multiplicative factorEnds
    (operatorEnds '*' '/' .multiply .divide) room short

/-- A factor enters a rule behind a sign or a parenthesis only. -/
theorem endsOrDivides_factor (factors : IsSound (rules .factor) .factor)
    (rulesEnd : ∀ rule (shorter : List Char), shorter.length < text.length →
      EndsOrDivides (rules rule (.text shorter))) :
    EndsOrDivides (factor.parser verbosity rules rounds (.text text)) := by
  have mark : ∀ character input, EndsOrDivides
      ((lexeme (Scanner.exactCharacter character)).parser verbosity rules rounds input) :=
    fun character input => holds_lexeme isCompositional_endsOrDivides
      (holds_exactCharacter isCompositional_endsOrDivides character input)
  have behindMark : ∀ {character value middle} rule,
      ((lexeme (Scanner.exactCharacter character)).parser verbosity rules rounds).Succeeds
        (.text text) value middle → EndsOrDivides (rules rule middle) := by
    intro character value middle rule marked
    rcases of_mark marked with ⟨blanks, after, _, rfl, rfl⟩
    refine rulesEnd rule after ?_
    simp only [List.length_cons, List.length_append]
    omega
  refine isCompositional_endsOrDivides.orElse ?_ ?_
  · refine isCompositional_endsOrDivides.orElse
      (holds_lexeme isCompositional_endsOrDivides
        (holds_decimal isCompositional_endsOrDivides text)) ?_
    intro _
    refine isCompositional_endsOrDivides.mapM (isCompositional_endsOrDivides.seqRight
      (mark '-' (.text text)) fun _ _ marked => behindMark .factor marked) ?_
    intro value rest success
    rcases Parser.succeeds_seqRight_iff.mp success with ⟨_, _, marked, followed⟩
    rcases of_mark marked with ⟨_, _, _, _, rfl⟩
    rcases factors followed with ⟨tree, _, _, ⟨_, _, rfl⟩, _, _⟩
    exact isCompositional_endsOrDivides.answer _
  · intro _
    exact isCompositional_endsOrDivides.seqLeft
      (isCompositional_endsOrDivides.seqRight (mark '(' (.text text))
        fun _ _ marked => behindMark .expression marked)
      fun _ middle _ => mark ')' middle

/-- The depth that a text of this length may ask of a rule. -/
def Rule.depthFor (length : Nat) : Rule → Nat
  | .factor => 2 * length + 1
  | .expression => 2 * length + 2

theorem endsOrDivides_ruleParser {depth : Nat} (rule : Rule)
    (deep : rule.depthFor text.length ≤ depth) (room : text.length < rounds) :
    EndsOrDivides
      (Grammar.ruleParser verbosity Calculator.rules rounds depth rule (.text text)) := by
  induction depth generalizing rule text with
  | zero => cases rule <;> exact absurd deep (Nat.not_succ_le_zero _)
  | succ depth shallower =>
      cases rule with
      | factor =>
          refine endsOrDivides_factor (isSound_ruleParser depth .factor) ?_
          intro inner shorter isShorter
          refine shallower inner ?_ (Nat.lt_trans isShorter room)
          cases inner <;> simp only [Rule.depthFor] at deep ⊢ <;> omega
      | expression =>
          refine endsOrDivides_expression (isSound_ruleParser depth .factor) ?_ room
            (Nat.lt_succ_self _)
          intro inner short
          refine shallower .factor ?_ (Nat.lt_of_lt_of_le short room)
          simp only [Rule.depthFor] at deep ⊢
          omega

theorem endsOrDivides_parserWithin {bound : Nat} (room : 2 * text.length < bound) :
    EndsOrDivides (grammar.parserWithin bound verbosity Calculator.rules (.text text)) := by
  refine isCompositional_endsOrDivides.seqRight
    (holds_spaces isCompositional_endsOrDivides (.text text)) ?_
  intro _ middle skipped
  rcases AreBlanks.of_skipMany skipped with ⟨blanks, after, _, rfl, rfl⟩
  rw [List.length_append] at room
  have within : after.length + 1 ≤ bound := by omega
  refine endsOrDivides_expression (isSound_ruleParser bound .factor) ?_ within
    (Nat.lt_succ_self _)
  intro inner short
  refine endsOrDivides_ruleParser .factor ?_ (Nat.lt_of_lt_of_le short within)
  simp only [Rule.depthFor]
  omega

end Calculator

end OrderedChoice
