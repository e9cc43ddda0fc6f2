import OrderedChoice.Calculator
import OrderedChoice.Proofs.Calculator.Syntax

/-!
# Tokens of the calculator

Every token takes all the white space behind it, so the next token is looked for where there
is none.
-/

namespace OrderedChoice

namespace Calculator

open Scanner (AreBlanks IsNumeral StartsDark)

variable {verbosity : Verbosity} {rules : Rule → Parser Value} {rounds : Nat}
  {text blanks after : List Char} {rest : Stream} {value : Value}

/-! ## Tokens and white space -/

section Lexeme

variable {token : Grammar Rule}

theorem of_lexeme {input : Stream}
    (success : ((lexeme token).parser verbosity rules rounds).Succeeds input value rest) :
    ∃ middle, (token.parser verbosity rules rounds).Succeeds input value middle ∧
      ∀ {behind}, middle = .text behind →
        ∃ blanks after, AreBlanks blanks ∧ behind = blanks ++ after ∧ rest = .text after := by
  rcases Parser.succeeds_seqLeft_iff.mp success with ⟨middle, _, read, skipped⟩
  refine ⟨middle, read, ?_⟩
  intro behind isText
  subst isText
  exact AreBlanks.of_skipMany skipped

theorem succeeds_lexeme (areBlanks : AreBlanks blanks) (dark : StartsDark after)
    (success : (token.parser verbosity rules rounds).Succeeds (.text text) value
      (.text (blanks ++ after))) :
    ((lexeme token).parser verbosity rules rounds).Succeeds (.text text) value (.text after) :=
  Parser.succeeds_seqLeft_iff.mpr ⟨_, _, success, areBlanks.skipMany dark⟩

theorem fails_lexeme {input : Stream}
    (failure : ∃ error, (token.parser verbosity rules rounds).Fails input error) :
    ∃ error, ((lexeme token).parser verbosity rules rounds).Fails input error :=
  failure.imp fun _ failed => Parser.fails_seqLeft_iff.mpr (Or.inl failed)

end Lexeme

/-! ## Marks and numbers -/

section Mark

variable {mark : Char}

theorem of_mark (success : ((lexeme (Scanner.exactCharacter mark)).parser verbosity rules
    rounds).Succeeds (.text text) value rest) :
    ∃ blanks after, AreBlanks blanks ∧ text = mark :: (blanks ++ after) ∧ rest = .text after := by
  rcases of_lexeme success with ⟨middle, read, skipped⟩
  rcases Scanner.succeeds_exactCharacter_iff.mp read with ⟨behind, rfl, _, left⟩
  rcases skipped left with ⟨blanks, after, areBlanks, rfl, rfl⟩
  exact ⟨blanks, after, areBlanks, rfl, rfl⟩

theorem succeeds_mark (areBlanks : AreBlanks blanks) (dark : StartsDark after) :
    ((lexeme (Scanner.exactCharacter mark)).parser verbosity rules rounds).Succeeds
      (.text (mark :: (blanks ++ after))) (Value.ofChar mark) (.text after) :=
  succeeds_lexeme areBlanks dark
    (Scanner.succeeds_exactCharacter_iff.mpr ⟨blanks ++ after, rfl, rfl, rfl⟩)

theorem fails_mark (other : text.head? ≠ some mark) :
    ∃ error, ((lexeme (Scanner.exactCharacter mark)).parser verbosity rules rounds).Fails
      (.text text) error :=
  fails_lexeme (Scanner.fails_exactCharacter other)

end Mark

theorem of_number (success : ((lexeme Scanner.decimal).parser verbosity rules rounds).Succeeds
    (.text text) value rest) :
    ∃ numeral blanks after, IsNumeral numeral ∧ AreBlanks blanks ∧
      text = numeral ++ (blanks ++ after) ∧ value = .float (Decimal.read numeral) ∧
      rest = .text after := by
  rcases of_lexeme success with ⟨middle, read, skipped⟩
  rcases IsNumeral.of_decimal read with ⟨numeral, behind, isNumeral, rfl, rfl, left⟩
  rcases skipped left with ⟨blanks, after, areBlanks, rfl, rfl⟩
  exact ⟨numeral, blanks, after, isNumeral, areBlanks, rfl, rfl, rfl⟩

theorem succeeds_number {numeral : List Char} (isNumeral : IsNumeral numeral)
    (areBlanks : AreBlanks blanks) (closes : Closes .factor after) :
    ((lexeme Scanner.decimal).parser verbosity rules rounds).Succeeds
      (.text (numeral ++ (blanks ++ after))) (.float (Decimal.read numeral)) (.text after) :=
  succeeds_lexeme areBlanks closes.startsDark
    (isNumeral.decimal (endsNumeral_blanks_append areBlanks closes.endsNumeral))

theorem fails_number {first : Char} {others : List Char} (noDigit : first.isDigit = false) :
    ∃ error, ((lexeme Scanner.decimal).parser verbosity rules rounds).Fails
      (.text (first :: others)) error := by
  refine fails_lexeme (Scanner.fails_decimal ?_)
  intro found head
  cases head
  exact noDigit

/-! ## Signs -/

/-- The parser for the signs of the operations that join a level and its operands. -/
structure ReadsSigns (operator : Parser Value) (level operand : Level) : Prop where
  sound : ∀ {text value rest}, operator.Succeeds (.text text) value rest →
    ∃ operation sign blanks after, Joins level operand operation sign ∧ AreBlanks blanks ∧
      text = sign :: (blanks ++ after) ∧ value = .operator (.arithmetic operation) ∧
      rest = .text after
  complete : ∀ {operation sign blanks after}, Joins level operand operation sign →
    AreBlanks blanks → StartsDark after →
      operator.Succeeds (.text (sign :: (blanks ++ after))) (.operator (.arithmetic operation))
        (.text after)
  fails : ∀ {after}, Closes level after → ∃ error, operator.Fails (.text after) error

/-- Two signs, each with the operation that it stands for. -/
def signs (first second : Char) (operation other : Arithmetic) : Grammar Rule :=
  lexeme ((sign (Scanner.exactCharacter first) operation).orElse
    (sign (Scanner.exactCharacter second) other))

theorem succeeds_sign_iff {mark : Char} {operation : Arithmetic} :
    ((sign (Scanner.exactCharacter mark) operation).parser verbosity rules rounds).Succeeds
        (.text text) value rest ↔
      ∃ after, text = mark :: after ∧ value = .operator (.arithmetic operation) ∧
        rest = .text after := by
  refine Parser.succeeds_mapM_iff.trans ?_
  constructor
  · intro success
    rcases success with ⟨_, read, same⟩
    rcases Scanner.succeeds_exactCharacter_iff.mp read with ⟨after, rfl, _, rfl⟩
    cases same
    exact ⟨after, rfl, rfl, rfl⟩
  · intro success
    rcases success with ⟨after, rfl, rfl, rfl⟩
    exact ⟨_, Scanner.succeeds_exactCharacter_iff.mpr ⟨after, rfl, rfl, rfl⟩, rfl⟩

theorem fails_sign {mark : Char} {operation : Arithmetic} (other : text.head? ≠ some mark) :
    ∃ error, ((sign (Scanner.exactCharacter mark) operation).parser verbosity rules rounds).Fails
      (.text text) error :=
  (Scanner.fails_exactCharacter other).imp fun _ failed => Parser.fails_mapM_iff.mpr failed

theorem readsSigns {first second : Char} {operation other : Arithmetic} {level operand : Level}
    (distinct : second ≠ first)
    (joins : ∀ {found sign}, Joins level operand found sign ↔
      found = operation ∧ sign = first ∨ found = other ∧ sign = second) :
    ReadsSigns ((signs first second operation other).parser verbosity rules rounds)
      level operand := by
  refine ⟨?_, ?_, ?_⟩
  · intro text value rest success
    rcases of_lexeme success with ⟨middle, read, skipped⟩
    rcases Parser.succeeds_orElse_iff.mp read with read | ⟨_, read⟩
    · rcases succeeds_sign_iff.mp read with ⟨behind, rfl, rfl, left⟩
      rcases skipped left with ⟨blanks, after, areBlanks, rfl, rfl⟩
      exact ⟨_, _, blanks, after, joins.mpr (Or.inl ⟨rfl, rfl⟩), areBlanks, rfl, rfl, rfl⟩
    · rcases succeeds_sign_iff.mp read with ⟨behind, rfl, rfl, left⟩
      rcases skipped left with ⟨blanks, after, areBlanks, rfl, rfl⟩
      exact ⟨_, _, blanks, after, joins.mpr (Or.inr ⟨rfl, rfl⟩), areBlanks, rfl, rfl, rfl⟩
  · intro found sign blanks after joined areBlanks dark
    refine succeeds_lexeme areBlanks dark (Parser.succeeds_orElse_iff.mpr ?_)
    rcases joins.mp joined with ⟨rfl, rfl⟩ | ⟨rfl, rfl⟩
    · exact Or.inl (succeeds_sign_iff.mpr ⟨_, rfl, rfl, rfl⟩)
    · refine Or.inr ⟨fails_sign ?_, succeeds_sign_iff.mpr ⟨_, rfl, rfl, rfl⟩⟩
      intro head
      exact distinct (Option.some.inj head)
  · intro after closes
    refine fails_lexeme (Parser.exists_fails_orElse (fails_sign ?_) (fails_sign ?_))
    · intro head
      exact (joins.mpr (Or.inl ⟨rfl, rfl⟩)).not_follows (closes _ head)
    · intro head
      exact (joins.mpr (Or.inr ⟨rfl, rfl⟩)).not_follows (closes _ head)

theorem readsSigns_additive : ReadsSigns (additive.parser verbosity rules rounds) .sum .product := by
  refine readsSigns (by decide) ?_
  intro found sign
  constructor
  · intro joined
    cases joined
    · exact Or.inl ⟨rfl, rfl⟩
    · exact Or.inr ⟨rfl, rfl⟩
  · rintro (⟨rfl, rfl⟩ | ⟨rfl, rfl⟩)
    · exact .plus
    · exact .minus

theorem readsSigns_multiplicative :
    ReadsSigns (multiplicative.parser verbosity rules rounds) .product .factor := by
  refine readsSigns (by decide) ?_
  intro found sign
  constructor
  · intro joined
    cases joined
    · exact Or.inl ⟨rfl, rfl⟩
    · exact Or.inr ⟨rfl, rfl⟩
  · rintro (⟨rfl, rfl⟩ | ⟨rfl, rfl⟩)
    · exact .times
    · exact .divided

end Calculator

end OrderedChoice
