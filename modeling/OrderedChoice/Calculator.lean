import OrderedChoice.Grammar.Rules
import OrderedChoice.Scanner.Number
import OrderedChoice.Parser.Whole

/-!
# A calculator

Expressions of floating point arithmetic.  Multiplication and division bind tighter
than addition and subtraction, all four group to the left, and a sign binds tightest.
White space may stand in front of the expression and behind every token, so each
token skips the white space that follows it.  Values are computed while parsing, and
a division by zero ends the parse.
-/

namespace OrderedChoice

namespace Calculator

/-- The two rules that refer to each other. -/
inductive Rule where
  | expression | factor
  deriving DecidableEq

/-- White space, if any. -/
def spaces : Grammar Rule := Scanner.blank.skipMany

/-- A token with the white space behind it. -/
def lexeme (token : Grammar Rule) : Grammar Rule := token.seqLeft spaces

/-- A sign that yields the operation it stands for. -/
def sign (token : Grammar Rule) (operation : Arithmetic) : Grammar Rule :=
  token.map fun _ => return .operator (.arithmetic operation)

/-- The operators that bind loosely. -/
def additive : Grammar Rule :=
  lexeme ((sign Scanner.plusSign .add).orElse (sign Scanner.minusSign .subtract))

/-- The operators that bind tightly. -/
def multiplicative : Grammar Rule :=
  lexeme ((sign Scanner.asterisk .multiply).orElse (sign Scanner.slash .divide))

/-- The number of the opposite sign. -/
def negate (value : Value) : Except Fault Value :=
  match value with
  | .float number => return .float (-number)
  | _ => throw (.badValue "neg")

/-- A sum of products of factors. -/
def expression : Grammar Rule :=
  .chainLeft (.chainLeft (.rule .factor) multiplicative) additive

/-- A number, a factor behind a minus sign, or an expression in parentheses. -/
def factor : Grammar Rule :=
  ((lexeme Scanner.decimal).orElse
    (((lexeme Scanner.minusSign).seqRight (.rule .factor)).map negate)).orElse
    (Grammar.between (lexeme (Scanner.exactCharacter '(')) (lexeme (Scanner.exactCharacter ')'))
      (.rule .expression))

/-- The bodies of the rules. -/
def rules : Rule → Grammar Rule
  | .expression => expression
  | .factor => factor

/-- An expression behind white space. -/
def grammar : Grammar Rule := spaces.seqRight expression

/-- The value of a text that is an expression as a whole. -/
def evaluate (text : Stream) (name : String) : Run Value :=
  (grammar.parse .warning rules).parseAll text name

end Calculator

end OrderedChoice
