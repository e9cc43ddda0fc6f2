import OrderedChoice.Text.Printable

/-!
# Quoted text and quoted bytes

Text inside a shown value stands between single quotes, or between double quotes
when it holds a single quote and no double one.  The backslash and the chosen
quote are escaped, and so is every character that would not print.
-/

namespace OrderedChoice

namespace Quoted

/-- The quote that needs fewer escapes; a tie goes to the single quote. -/
def quoteFor (characters : List Char) : Char :=
  if characters.contains '\'' && !characters.contains '"' then '"' else '\''

/-- A number in base sixteen with at least `width` digits. -/
def hexadecimal (width number : Nat) : List Char :=
  let digits := Nat.toDigits 16 number
  List.replicate (width - digits.length) '0' ++ digits

/-- The numeric escape of a code point, in the shortest of its three widths. -/
def numericEscape (codePoint : Nat) : List Char :=
  if codePoint ≤ 0xFF then '\\' :: 'x' :: hexadecimal 2 codePoint
  else if codePoint ≤ 0xFFFF then '\\' :: 'u' :: hexadecimal 4 codePoint
  else '\\' :: 'U' :: hexadecimal 8 codePoint

/-- How one character is written between the given quotes, when `plain` says which
characters may stand for themselves. -/
def escaped (plain : Char → Bool) (quote character : Char) : List Char :=
  if character = quote ∨ character = '\\' then ['\\', character]
  else if character = '\n' then ['\\', 'n']
  else if character = '\r' then ['\\', 'r']
  else if character = '\t' then ['\\', 't']
  else if plain character then [character]
  else numericEscape character.toNat

/-- The characters between their quotes. -/
def enclose (plain : Char → Bool) (characters : List Char) : List Char :=
  let quote := quoteFor characters
  quote :: characters.flatMap (escaped plain quote) ++ [quote]

/-- Quoted text. -/
def text (content : String) : String :=
  String.ofList (enclose Printable.isPrintable content.toList)

/-- Quoted bytes, marked by a leading `b`.  Only the visible ASCII characters stand
for themselves. -/
def bytes (content : List UInt8) : String :=
  let plain (character : Char) :=
    decide (0x20 ≤ character.toNat) && decide (character.toNat < 0x7F)
  String.ofList ('b' :: enclose plain (content.map fun byte => Char.ofNat byte.toNat))

end Quoted

end OrderedChoice
