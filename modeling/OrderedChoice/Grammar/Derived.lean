import OrderedChoice.Grammar.Basic
import OrderedChoice.Operator

/-!
# Derived combinators

Combinators that are expressions over the basic ones.  Those that can be given
arguments for which no parser exists return a fault in that case.
-/

namespace OrderedChoice

namespace Grammar

variable {ν : Type}

/-- Match one element for which the test holds. -/
def satisfy (test : Value → Except Fault Bool) (expected : Value) (display : Value → String) :
    Grammar ν :=
  .token (fun element => return if ← test element then some element else none) expected display

/-- Match a literal, which has to be a stream.  It is expected under its own text unless
another one is given. -/
def literal? (literal : Value) (expected : Option Value) (display : Value → String) :
    Except Fault (Grammar ν) :=
  match literal.toStream? with
  | some stream => return .tokens stream (expected.getD (.text (display literal))) display
  | none => throw (.noLength literal)

/-- Match as often as possible. -/
def many (body : Grammar ν) : Grammar ν := .repeated 0 "many" body

/-- Match as often as possible, and at least once. -/
def atLeastOnce (body : Grammar ν) : Grammar ν := .repeated 1 "at_least_once" body

/-- Replace every value by the absent one. -/
def forget (body : Grammar ν) : Grammar ν := body.map fun _ => return .nothing

/-- Match as often as possible and yield nothing. -/
def skipMany (body : Grammar ν) : Grammar ν := (Grammar.repeated 0 "skip_many" body).forget

/-- Match as often as possible, at least once, and yield nothing. -/
def skipAtLeastOnce (body : Grammar ν) : Grammar ν :=
  (Grammar.repeated 1 "skip_many1" body).forget

/-- Match, or yield the value where the body fails. -/
def option (value : Value) (body : Grammar ν) : Grammar ν := body.orElse (.pure value)

/-- Match, or yield the absent value where the body fails. -/
def optional (body : Grammar ν) : Grammar ν := body.option .nothing

/-- Match the first alternative that matches. -/
def choice : List (Grammar ν) → Grammar ν
  | [] => .fail "no alternatives"
  | first :: others => others.foldl .orElse first

/-- Match three in order and yield the value of the one in the middle. -/
def between (opening closing body : Grammar ν) : Grammar ν :=
  (opening.seqRight body).seqLeft closing

/-- The list that a first item and a list of further ones make. -/
def prepend : Value → Except Fault Value
  | .tuple [first, .list others] => return .list (first :: others)
  | _ => throw (.badValue "prepend")

/-- Match items with separators between them, at least one item.  A separator without
an item behind it is left in the input. -/
def separatedOnce (item separator : Grammar ν) : Grammar ν :=
  (item.both (separator.seqRight item).many).map prepend

/-- Match items with separators between them, or nothing. -/
def separated (item separator : Grammar ν) : Grammar ν :=
  (item.separatedOnce separator).orElse (.pure (.list []))

/-- Match terms with operators between them, and apply the operators from the left. -/
def chainLeft (term operator : Grammar ν) : Grammar ν := .chainLeftBy Value.apply term operator

/-- Match terms with operators between them, and apply the operators from the right. -/
def chainRight (term operator : Grammar ν) : Grammar ν := .chainRightBy Value.apply term operator

/-- The number of repetitions that a value asks for.  Flags count as zero and one. -/
def count? (count : Value) : Except Fault Nat :=
  match count with
  | .int number => if number < 0 then throw (.negativeCount count) else return number.toNat
  | .bool flag => return if flag then 1 else 0
  | .float number => throw (if number < 0.0 then .negativeCount count else .notACount count)
  | count => throw (.notOrdered count)

/-- Match a number of times that is given as a value. -/
def exactly? (body : Grammar ν) (count : Value) : Except Fault (Grammar ν) :=
  return .exactly (← count? count) body

/-- The parts of a value that pairs nested to the left hold, when there are so many
levels of them.  Pairs inside the parts are left alone. -/
def unnest? : (levels : Nat) → Value → Option (List Value)
  | 0, value => some [value]
  | levels + 1, .tuple [nested, last] => (unnest? levels nested).map (· ++ [last])
  | _, _ => none

/-- Turn nested pairs into a flat tuple. -/
def flatten (levels : Nat) (value : Value) : Except Fault Value :=
  match unnest? levels value with
  | some items => return .tuple items
  | none => throw (.badValue "flatten")

/-- Match a first parser and others in order, and yield their values side by side. -/
def sequence (first : Grammar ν) (others : List (Grammar ν)) : Grammar ν :=
  (others.foldl .both first).map (flatten others.length)

/-- Refuse a number of parsers that is not combined into a flat sequence. -/
def checkArity (arity : Int) : Except Fault Unit :=
  if 2 ≤ arity ∧ arity ≤ Fault.largestArity then return ()
  else throw (.arityOutOfRange arity)

/-- The sequence operator of an arity takes that many parsers. -/
def sequenceOf? (arity : Int) (parsers : List (Grammar ν)) : Except Fault (Grammar ν) := do
  checkArity arity
  match parsers with
  | first :: others =>
      if (parsers.length : Int) = arity then return sequence first others
      else throw (.parserCount arity.toNat parsers.length)
  | [] => throw (.parserCount arity.toNat 0)

/-- The sequence of as many parsers as are given. -/
def sequence? (parsers : List (Grammar ν)) : Except Fault (Grammar ν) :=
  sequenceOf? parsers.length parsers

/-- The name of the sequence operator of an arity. -/
def sequenceName? (arity : Int) : Except Fault String := do
  checkArity arity
  return "sequence" ++ toString arity

/-- A grammar that may turn out not to exist, as one that faults when it is reached. -/
def ofExcept : Except Fault (Grammar ν) → Grammar ν
  | .ok grammar => grammar
  | .error cause => .fault cause

end Grammar

end OrderedChoice
