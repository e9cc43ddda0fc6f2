import OrderedChoice.Grammar.Derived

/-!
# Parsers for characters and text

These are meant for text, but read any stream whose elements are text.  Elements of
another kind are compared where a character is given, and fault where their
characters would have to be inspected.
-/

namespace OrderedChoice

namespace Scanner

variable {ν : Type}

/-- The characters of an element that is text or bytes.  No other element has any, and
asking whether it is ASCII faults. -/
def characters (element : Value) : Except Fault (List Char) :=
  match element with
  | .text content => return content.toList
  | .bytes content => return content.map fun byte => Char.ofNat byte.toNat
  | element => throw (.lacksOperation element "isascii")

/-- Whether all characters are ASCII. -/
def isAscii (characters : List Char) : Bool :=
  characters.all fun character => decide (character.toNat < 128)

/-- Match any element that is not the absent value. -/
def anyCharacter : Grammar ν :=
  .token (fun element => return match element with | .nothing => none | element => some element)
    (.text "char") Value.shown

/-- Match one element equal to the given value, which is what is expected. -/
def equalTo (character : Value) : Grammar ν :=
  .token (fun element => return if element == character then some element else none)
    character Value.shown

/-- Match the given element, or any one when none is given. -/
def character (wanted : Value) : Grammar ν :=
  match wanted with
  | .nothing => anyCharacter
  | wanted => equalTo wanted

/-- Match the given character. -/
def exactCharacter (character : Char) : Grammar ν := equalTo (Value.ofChar character)

/-- Match the given text. -/
def literal (content : String) : Grammar ν :=
  .tokens (.text content.toList) (.text content) Value.shown

/-- Match one ASCII character. -/
def asciiCharacter : Grammar ν :=
  anyCharacter.filter fun element => do
    if isAscii (← characters element) then return none
    else return some (.unexpected (.text "ascii") element none)

/-- The texts among values, or the place and value of the first that is no text. -/
def texts : (index : Nat) → List Value → Except Fault (List String)
  | _, [] => return []
  | index, .text content :: items => return content :: (← texts (index + 1) items)
  | index, item :: _ => throw (.notJoinable index item)

/-- The text that a list of texts makes. -/
def join (value : Value) : Except Fault Value :=
  match value with
  | .list items => return .text (String.join (← texts 0 items))
  | _ => throw (.badValue "join")

/-- Match one or more ASCII characters. -/
def asciiText : Grammar ν := asciiCharacter.atLeastOnce.map join

/-- Match a number of characters, whatever they are. -/
def textOfLength (count : Nat) : Grammar ν := (Grammar.exactly count anyCharacter).map join

/-- Match a number of characters that is given as a value. -/
def textOfLength? (count : Value) : Except Fault (Grammar ν) :=
  return textOfLength (← Grammar.count? count)

/-- Match `+`. -/
def plusSign : Grammar ν := exactCharacter '+'

/-- Match `-`. -/
def minusSign : Grammar ν := exactCharacter '-'

/-- Match `*`. -/
def asterisk : Grammar ν := exactCharacter '*'

/-- Match `/`. -/
def slash : Grammar ν := exactCharacter '/'

/-- Match `=`. -/
def equalsSign : Grammar ν := exactCharacter '='

/-- The text that a pair of texts makes. -/
def joinPair (value : Value) : Except Fault Value :=
  match value with
  | .tuple [.text first, .text second] => return .text (first ++ second)
  | _ => throw (.badValue "joinPair")

/-- Match `==`. -/
def doubleEquals : Grammar ν := (equalsSign.both equalsSign).map joinPair

/-- Match a space. -/
def space : Grammar ν := exactCharacter ' '

/-- Match a line feed. -/
def lineFeed : Grammar ν := exactCharacter '\n'

/-- Match a carriage return with the line feed behind it. -/
def lineBreak : Grammar ν := literal "\r\n"

/-- Match a tab. -/
def tab : Grammar ν := exactCharacter '\t'

/-- Match one piece of white space. -/
def blank : Grammar ν :=
  ((space.orElse lineFeed).orElse lineBreak).orElse tab

/-- Match white space, at least one piece. -/
def blanks : Grammar ν := blank.atLeastOnce

end Scanner

end OrderedChoice
