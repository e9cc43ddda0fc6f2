import OrderedChoice.Fault

/-!
# Actions on elements

Ready-made tests, selections and displays for the elements of a stream.
-/

namespace OrderedChoice

/-- A test of an element. -/
abbrev Test : Type := Value → Except Fault Bool

namespace Test

/-- Every element passes. -/
def any : Test := fun _ => return true

/-- No element passes. -/
def never : Test := fun _ => return false

/-- Elements equal to a value. -/
def equalTo (wanted : Value) : Test := fun element => return element == wanted

/-- Integers below a bound.  Flags are no integers here. -/
def below (bound : Int) : Test :=
  fun element => return match element with
    | .int number => decide (number < bound)
    | _ => false

/-- Elements equal to one of several values. -/
def oneOf (wanted : List Value) : Test :=
  fun element => return wanted.any fun value => value == element

/-- Integers.  Flags are no integers here. -/
def isInteger : Test :=
  fun element => return match element with
    | .int _ => true
    | _ => false

/-- Texts. -/
def isText : Test :=
  fun element => return match element with
    | .text _ => true
    | _ => false

/-- Tokens of a kind. -/
def ofKind (wanted : String) : Test :=
  fun element => return match element with
    | .token kind _ => decide (kind = wanted)
    | _ => false

/-- Fault on every element. -/
def raise (reason : String) : Test := fun _ => throw (.raised reason)

end Test

/-- What a token parser takes an element for, if it takes it. -/
abbrev Selection : Type := Value → Except Fault (Option Value)

namespace Selection

/-- Take an element for the value that a transformation gives, unless that is the absent
value. -/
def ofTransform (transform : Value → Except Fault Value) : Selection :=
  fun element => return match ← transform element with
    | .nothing => none
    | value => some value

/-- The content of tokens of a kind. -/
def contentOf (wanted : String) : Value → Except Fault Value :=
  fun element => return match element with
    | .token kind content => if kind = wanted then content else .nothing
    | _ => .nothing

/-- The value that stands next to the first key equal to the element. -/
def lookup (table : List (Value × Value)) : Value → Except Fault Value :=
  fun element => return match table.find? fun (key, _) => key == element with
    | some (_, value) => value
    | none => .nothing

end Selection

/-- How an element is shown in an error. -/
abbrev Display : Type := Value → String

namespace Display

/-- The kind of a token, and a question mark for anything else. -/
def kind : Display
  | .token kind _ => kind
  | _ => "?"

/-- The usual text between angle brackets. -/
def angle : Display := fun element => "<" ++ element.shown ++ ">"

/-- No text at all. -/
def empty : Display := fun _ => ""

end Display

end OrderedChoice
