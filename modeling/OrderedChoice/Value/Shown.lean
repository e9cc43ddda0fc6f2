import OrderedChoice.Decimal.Layout
import OrderedChoice.Text.Quoted
import OrderedChoice.Value

/-!
# Values as text

`Value.written` is the written form of a value, in which text is quoted.
`Value.shown` is the form used in messages, which leaves text as it is.
-/

namespace OrderedChoice

/-- The short name of an operator. -/
def Operator.name : Operator → String
  | .add | .arithmetic .add => "add"
  | .subtract | .arithmetic .subtract => "sub"
  | .multiply | .arithmetic .multiply => "mul"
  | .divide | .arithmetic .divide => "div"
  | .power => "pow"
  | .pair => "pair"
  | .record => "show"
  | .refuse => "boom"

namespace Value

mutual

/-- The written form of a value. -/
def written : Value → String
  | .nothing => "None"
  | .bool flag => if flag then "True" else "False"
  | .int number => toString number
  | .float number => (Binary64.ofFloat number).text
  | .text content => Quoted.text content
  | .bytes content => Quoted.bytes content
  | .list items => "[" ++ String.intercalate ", " (writtenItems items) ++ "]"
  | .tuple [item] => "(" ++ written item ++ ",)"
  | .tuple items => "(" ++ String.intercalate ", " (writtenItems items) ++ ")"
  | .token kind content =>
      "Tok(kind=" ++ Quoted.text kind ++ ", val=" ++ written content ++ ")"
  | .operator operation => "<op " ++ operation.name ++ ">"

/-- The written forms of the items of a sequence. -/
def writtenItems : List Value → List String
  | [] => []
  | item :: items => written item :: writtenItems items

end

/-- The form of a value in messages: text stands as it is, everything else in its
written form. -/
def shown : Value → String
  | .text content => content
  | value => written value

end Value

end OrderedChoice
