import OrderedChoice.Parser.Basic
import OrderedChoice.Pattern.Matching

/-!
# Parsers from patterns

A pattern is matched at the start of whatever input its parser is given, so its start
anchor means that place and not the beginning of the whole text.
-/

namespace OrderedChoice

namespace Parser

/-- The answer of a pattern parser that has found how much its match takes. -/
def matched (pattern : Pattern) (input : Stream) : Option Nat → Run (Result Value)
  | some length => accept (input.take length).toValue (input.drop length)
  | none =>
      let found := if input.length = 0 then "" else (input.take 1).toValue.shown
      reject (.unexpected (.text ("/" ++ pattern.source ++ "/")) (.text found) (some input.length))

/-- Match the text that a pattern prefers, and yield it.  A pattern for text reads text
only and a pattern for bytes reads bytes only. -/
def matching (pattern : Pattern) : Parser Value :=
  fun input =>
    match input, pattern.alphabet with
    | .text characters, .text => matched pattern input (pattern.matchLength? characters)
    | .bytes content, .bytes =>
        matched pattern input
          (pattern.matchLength? (content.map fun byte => Char.ofNat byte.toNat))
    | .text _, .bytes => .fault .bytesPatternOnText
    | .bytes _, .text => .fault .textPatternOnBytes
    | .list _, _ | .tuple _, _ => .fault (.notMatchable input.toValue)

end Parser

end OrderedChoice
