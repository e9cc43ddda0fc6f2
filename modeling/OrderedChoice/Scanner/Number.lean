import OrderedChoice.Decimal.Reading
import OrderedChoice.Scanner.Character
import OrderedChoice.Scanner.Pattern

/-!
# Parsers for numbers

Digits are those of ASCII.  A numeral is a run of digits of one base, as long as
possible, behind the mark of that base; decimal numerals have no mark.
-/

namespace OrderedChoice

namespace Scanner

variable {ν : Type}

/-- The number that an element denotes, when all its characters are decimal digits. -/
def decimalValue (element : Value) : Except Fault (Option Value) := do
  let characters ← characters element
  if characters.isEmpty || !characters.all Char.isDigit then return none
  else return some (.int (Decimal.ofDigits 10 (characters.map Decimal.digitValue)))

/-- Match a decimal digit and yield its value. -/
def digit : Grammar ν := .token decimalValue (.text "digit") Value.shown

/-- The error of an integer outside a range. -/
def checkRange (low high : Int) (expected : String) (value : Value) :
    Except Fault (Option ParseError) :=
  match value with
  | .int number =>
      if low ≤ number ∧ number ≤ high then return none
      else return some (.unexpected (.text expected) (.text (toString number)) none)
  | _ => throw (.badValue "in_range")

/-- Match a binary digit. -/
def binaryDigit : Grammar ν := digit.filter (checkRange 0 1 "0 or 1")

/-- Match an octal digit. -/
def octalDigit : Grammar ν := digit.filter (checkRange 0 7 "0 to 7")

/-- The number that an element denotes in base thirty-six, when all its characters are
letters and digits of ASCII, and a negative one otherwise. -/
def alphanumericValue (element : Value) : Except Fault Value := do
  let characters ← characters element
  if characters.isEmpty || !characters.all Char.isAlphanum then return .int (-1)
  else return .int (Decimal.ofDigits 36 (characters.map Decimal.digitValue))

/-- Match a hexadecimal digit in either case.  Letters beyond the last digit denote
numbers that are too large. -/
def hexadecimalDigit : Grammar ν :=
  (anyCharacter.map alphanumericValue).filter (checkRange 0 15 "0 to 15")

/-- The integers among values, if all of them are integers. -/
def integers? : List Value → Option (List Int)
  | [] => some []
  | .int number :: items => (integers? items).map (number :: ·)
  | _ => none

/-- The number that a list of digits denotes in a base. -/
def numeral (base : Int) (value : Value) : Except Fault Value :=
  match value with
  | .list items =>
      match integers? items with
      | some digits => return .int (Decimal.ofDigits base digits)
      | none => throw (.badValue "build")
  | _ => throw (.badValue "build")

/-- Match `0b` and binary digits. -/
def binaryNumeral : Grammar ν :=
  ((literal "0b").seqRight binaryDigit.atLeastOnce).map (numeral 2)

/-- Match `0o` and octal digits. -/
def octalNumeral : Grammar ν :=
  ((literal "0o").seqRight octalDigit.atLeastOnce).map (numeral 8)

/-- Match `0x` or `0X` and hexadecimal digits. -/
def hexadecimalNumeral : Grammar ν :=
  (((literal "0x").orElse (literal "0X")).seqRight hexadecimalDigit.atLeastOnce).map (numeral 16)

/-- Match decimal digits. -/
def decimalNumeral : Grammar ν := digit.atLeastOnce.map (numeral 10)

/-- Match a numeral in any of the bases.  The marked ones come first. -/
def integer : Grammar ν :=
  ((hexadecimalNumeral.orElse octalNumeral).orElse binaryNumeral).orElse decimalNumeral

/-- The pattern of decimals: digits, and more of them behind a point or a comma. -/
def decimalPattern : Pattern :=
  let digits := Pattern.Node.repetition
    (.character (.among false [.range '0' '9'])) 1 none true
  let separator := Pattern.Node.character
    (.among false [.range '.' '.', .range ',' ','])
  let fraction := Pattern.Node.sequence separator (.sequence digits .nothing)
  { root := .sequence digits (.sequence (.repetition fraction 0 (some 1) true) .nothing)
    flags := plainFlags
    alphabet := .text
    source := "[0-9]+([.,][0-9]+)?" }

/-- The double that a written decimal denotes.  Any other text is refused. -/
def floatingValue (value : Value) : Except Fault Value :=
  match value with
  | .text content =>
      if Decimal.isWritten content.toList then return .float (Decimal.read content.toList)
      else throw (.badValue "float")
  | _ => throw (.badValue "float")

/-- Match a decimal and yield it as a double. -/
def decimal : Grammar ν := (Grammar.matching decimalPattern).map floatingValue

end Scanner

end OrderedChoice
