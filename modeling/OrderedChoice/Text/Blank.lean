/-!
# Blank characters

The characters that count as white space in text: the ASCII blanks, the four
separators below the space, and the blanks of Unicode.  Bytes know the ASCII blanks
only.
-/

namespace OrderedChoice

namespace Blank

/-- The six blanks of ASCII. -/
def ascii : List Char := [' ', '\t', '\n', '\r', '\x0b', '\x0c']

/-- The inclusive ranges of the blank code points. -/
def ranges : List (Nat × Nat) :=
  [(0x9, 0xD), (0x1C, 0x20), (0x85, 0x85), (0xA0, 0xA0), (0x1680, 0x1680),
   (0x2000, 0x200A), (0x2028, 0x2029), (0x202F, 0x202F), (0x205F, 0x205F), (0x3000, 0x3000)]

/-- Whether a byte, read as a character, is blank. -/
def isAsciiBlank (character : Char) : Bool := ascii.contains character

/-- Whether a character of a text is blank. -/
def isBlank (character : Char) : Bool :=
  ranges.any fun (first, last) =>
    decide (first ≤ character.toNat) && decide (character.toNat ≤ last)

end Blank

end OrderedChoice
