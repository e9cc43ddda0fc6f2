/-!
# Values

The elements of token streams and the values that parsers produce: numbers, text,
bytes, sequences, classified tokens, and the operators that drive operator chains.
-/

namespace OrderedChoice

/-- The four operations of floating point arithmetic. -/
inductive Arithmetic where
  | add | subtract | multiply | divide
  deriving DecidableEq

/-- A binary operation that a parser may yield, to be applied by an operator
chain.  The first five work on integers and `arithmetic` on floating point
numbers; `pair` and `record` take any operands and keep them visible; `refuse`
always faults. -/
inductive Operator where
  | add | subtract | multiply | divide | power
  | pair | record | refuse
  | arithmetic (operation : Arithmetic)
  deriving DecidableEq

/-- A value.  `token` is a classified token with its kind and content. -/
inductive Value where
  | nothing
  | bool (flag : Bool)
  | int (number : Int)
  | float (number : Float)
  | text (content : String)
  | bytes (content : List UInt8)
  | list (items : List Value)
  | tuple (items : List Value)
  | token (kind : String) (content : Value)
  | operator (operation : Operator)

instance : Inhabited Value := ⟨.nothing⟩

namespace Value

/-- The name under which a value's kind is reported in messages. -/
def kindName : Value → String
  | .nothing => "NoneType"
  | .bool _ => "bool"
  | .int _ => "int"
  | .float _ => "float"
  | .text _ => "str"
  | .bytes _ => "bytes"
  | .list _ => "list"
  | .tuple _ => "tuple"
  | .token _ _ => "Tok"
  | .operator _ => "Op"

/-- A single character as text. -/
def ofChar (character : Char) : Value := .text (String.singleton character)

/-- A single byte as an integer. -/
def ofByte (byte : UInt8) : Value := .int byte.toNat

/-- Absent, false, zero and empty values.  An error whose found value is one of
these reports the end of the input. -/
def isEmpty : Value → Bool
  | .nothing => true
  | .bool flag => !flag
  | .int number => number == 0
  | .float number => number == 0.0
  | .text content => content.isEmpty
  | .bytes content => content.isEmpty
  | .list items | .tuple items => items.isEmpty
  | .token _ _ | .operator _ => false

end Value

end OrderedChoice
