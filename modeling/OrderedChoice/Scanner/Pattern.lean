import OrderedChoice.Grammar.Basic
import OrderedChoice.Pattern.Reading

/-!
# Parsers for written patterns

A written pattern is text, for text, or bytes, for bytes.  The bytes of a pattern are
read as the first two hundred and fifty-six characters.
-/

namespace OrderedChoice

namespace Scanner

variable {ν : Type}

/-- No switch is set. -/
def plainFlags : Pattern.Flags := ⟨false, false, false⟩

/-- The switches that the bits of a number set. -/
def flagsOfBits (bits : Nat) : Pattern.Flags :=
  ⟨bits.testBit 1, bits.testBit 3, bits.testBit 4⟩

/-- Match the text that a written pattern prefers. -/
def regex? (source : Value) (flags : Pattern.Flags) : Except Fault (Grammar ν) :=
  let pattern? : Option Pattern := match source with
    | .text content => Pattern.ofText? content flags .text
    | .bytes content =>
        let characters := content.map fun byte => Char.ofNat byte.toNat
        Pattern.ofText? (String.ofList characters) flags .bytes
    | _ => none
  match pattern? with
  | some pattern => return .matching pattern
  | none => throw .malformedPattern

end Scanner

end OrderedChoice
