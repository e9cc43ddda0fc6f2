import OrderedChoice.Operator
import OrderedChoice.Proofs.Scanner.Character
import OrderedChoice.Proofs.Scanner.Decimal

/-!
# Written expressions

The expressions of the calculator without their parser: the trees that they are read as, the
number that a tree denotes, and the texts in which a tree may be written.
-/

namespace OrderedChoice

/-- The number that an operation gives, whatever the divisor. -/
def Arithmetic.compute : Arithmetic → Float → Float → Float
  | .add, first, second => first + second
  | .subtract, first, second => first - second
  | .multiply, first, second => first * second
  | .divide, first, second => first / second

/-- Whether an operation divides by a number that equals zero. -/
def Arithmetic.dividesByZero (operation : Arithmetic) (divisor : Float) : Bool :=
  decide (operation = .divide) && divisor == 0.0

namespace Calculator

/-- What an expression says.  Parentheses and white space leave no trace in it. -/
inductive Tree where
  | number (numeral : List Char)
  | negation (operand : Tree)
  | binary (operation : Arithmetic) (first second : Tree)

namespace Tree

/-- The number that an expression denotes. -/
def result : Tree → Float
  | .number numeral => Decimal.read numeral
  | .negation operand => -operand.result
  | .binary operation first second => operation.compute first.result second.result

/-- Whether there is a division by zero anywhere in an expression. -/
def dividesByZero : Tree → Bool
  | .number _ => false
  | .negation operand => operand.dividesByZero
  | .binary operation first second =>
      first.dividesByZero || second.dividesByZero || operation.dividesByZero second.result

end Tree

/-! ## The grammar -/

/-- The levels of the grammar: an expression is a sum of products of factors. -/
inductive Level where
  | sum | product | factor

/-- The sign of an operation stands between an expression of a level and an operand of the
level below. -/
inductive Joins : (level operand : Level) → Arithmetic → (sign : Char) → Prop where
  | plus : Joins .sum .product .add '+'
  | minus : Joins .sum .product .subtract '-'
  | times : Joins .product .factor .multiply '*'
  | divided : Joins .product .factor .divide '/'

open Scanner (IsNumeral AreDigits AreBlanks StartsDark EndsNumeral)

/-- The texts in which an expression of a level may be written.  White space may stand behind
every token, and operations of one level are grouped to the left. -/
inductive Written : Level → Tree → List Char → Prop where
  | number {numeral blanks : List Char} (isNumeral : IsNumeral numeral)
      (areBlanks : AreBlanks blanks) : Written .factor (.number numeral) (numeral ++ blanks)
  | negation {tree : Tree} {blanks operand : List Char} (areBlanks : AreBlanks blanks)
      (written : Written .factor tree operand) :
      Written .factor (.negation tree) ('-' :: (blanks ++ operand))
  | parentheses {tree : Tree} {blanks inner others : List Char} (areBlanks : AreBlanks blanks)
      (written : Written .sum tree inner) (areOthers : AreBlanks others) :
      Written .factor tree ('(' :: (blanks ++ (inner ++ ')' :: others)))
  | product {tree : Tree} {text : List Char} (written : Written .factor tree text) :
      Written .product tree text
  | sum {tree : Tree} {text : List Char} (written : Written .product tree text) :
      Written .sum tree text
  | binary {level operand : Level} {operation : Arithmetic} {sign : Char} {first second : Tree}
      {left blanks right : List Char} (joins : Joins level operand operation sign)
      (leftWritten : Written level first left) (areBlanks : AreBlanks blanks)
      (rightWritten : Written operand second right) :
      Written level (.binary operation first second) (left ++ sign :: (blanks ++ right))

/-- The texts in which a whole expression may be written, with white space in front. -/
def IsExpression (tree : Tree) (text : List Char) : Prop :=
  ∃ blanks sum, AreBlanks blanks ∧ Written .sum tree sum ∧ text = blanks ++ sum

/-! ## Where expressions begin and end -/

/-- An expression begins with a digit, a minus sign or a parenthesis. -/
theorem Written.begins {level : Level} {tree : Tree} {text : List Char}
    (written : Written level tree text) :
    ∃ first others, text = first :: others ∧
      (first.isDigit = true ∨ first = '-' ∨ first = '(') := by
  have digits : ∀ {characters}, AreDigits characters →
      ∃ first others, characters = first :: others ∧ first.isDigit = true := by
    intro characters areDigits
    rcases List.exists_cons_of_ne_nil areDigits.ne_nil with ⟨first, others, rfl⟩
    exact ⟨first, others, rfl, areDigits.isDigit first List.mem_cons_self⟩
  induction written with
  | number isNumeral _ =>
      cases isNumeral with
      | whole areDigits =>
          rcases digits areDigits with ⟨first, others, rfl, digit⟩
          exact ⟨first, _, rfl, Or.inl digit⟩
      | fraction areDigits _ _ =>
          rcases digits areDigits with ⟨first, others, rfl, digit⟩
          exact ⟨first, _, rfl, Or.inl digit⟩
  | negation _ _ _ => exact ⟨_, _, rfl, Or.inr (Or.inl rfl)⟩
  | parentheses _ _ _ _ => exact ⟨_, _, rfl, Or.inr (Or.inr rfl)⟩
  | product _ begins => exact begins
  | sum _ begins => exact begins
  | binary _ _ _ _ begins _ =>
      rcases begins with ⟨first, others, rfl, head⟩
      exact ⟨first, _, rfl, head⟩

theorem Written.length_pos {level : Level} {tree : Tree} {text : List Char}
    (written : Written level tree text) : 0 < text.length := by
  rcases written.begins with ⟨first, others, rfl, _⟩
  exact Nat.succ_pos _

theorem Written.startsDark {level : Level} {tree : Tree} {text : List Char}
    (written : Written level tree text) (after : List Char) : StartsDark (text ++ after) := by
  rcases written.begins with ⟨first, others, rfl, head⟩
  intro found same blank
  cases same
  have noDigit : ∀ character ∈ [' ', '\n', '\t', '\r'], character.isDigit = false := by simp
  rcases head with digit | rfl | rfl
  · rw [noDigit first blank] at digit
    cases digit
  · revert blank
    decide
  · revert blank
    decide

/-- The characters that may stand behind an expression of a level, when white space is over. -/
def Level.followers : Level → List Char
  | .sum => [')']
  | .product => [')', '+', '-']
  | .factor => [')', '+', '-', '*', '/']

/-- What stands behind an expression of a level does not belong to it. -/
def Closes (level : Level) (after : List Char) : Prop :=
  ∀ first, after.head? = some first → first ∈ level.followers

theorem closes_nil (level : Level) : Closes level [] := by
  intro first head
  cases head

theorem closes_cons {level : Level} {first : Char} (follows : first ∈ level.followers)
    (others : List Char) : Closes level (first :: others) := by
  intro found head
  cases head
  exact follows

section Closing

variable {level operand : Level} {operation : Arithmetic} {sign : Char} {after : List Char}

/-- The sign of an operation may stand behind its operands. -/
theorem Joins.follows (joins : Joins level operand operation sign) : sign ∈ operand.followers := by
  cases joins <;> decide

/-- An expression does not close in front of the sign of one of its own operations. -/
theorem Joins.not_follows (joins : Joins level operand operation sign) :
    sign ∉ level.followers := by
  cases joins <;> decide

/-- What closes an expression closes its last operand. -/
theorem Joins.closes (joins : Joins level operand operation sign) (closes : Closes level after) :
    Closes operand after := by
  have followers : level.followers ⊆ operand.followers := by
    cases joins <;> decide
  intro first head
  exact followers (closes first head)

theorem Closes.startsDark (closes : Closes level after) : StartsDark after := by
  intro first head blank
  have dark : ∀ character ∈ [' ', '\n', '\t', '\r'], character ∉ level.followers := by
    cases level <;> simp [Level.followers]
  exact dark first blank (closes first head)

theorem Closes.endsNumeral (closes : Closes level after) : EndsNumeral after := by
  intro first head
  have others : ∀ character ∈ level.followers,
      character.isDigit = false ∧ character ∉ ['.', ','] := by
    cases level <;> simp [Level.followers]
  exact others first (closes first head)

end Closing

/-- White space ends a numeral, and does not hide what ends one. -/
theorem endsNumeral_blanks_append {blanks after : List Char} (areBlanks : AreBlanks blanks)
    (ends : EndsNumeral after) : EndsNumeral (blanks ++ after) := by
  cases areBlanks with
  | none => exact ends
  | more first later =>
      intro character head
      cases first <;>
      · cases head
        decide

end Calculator

end OrderedChoice
