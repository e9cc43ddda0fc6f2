import OrderedChoice.Text.Blank

/-!
# Patterns

A pattern describes text by single characters, anchors, sequences, alternatives and
repetitions.  This module holds its syntax tree and says which characters a class
contains; matching is defined elsewhere.
-/

namespace OrderedChoice

namespace Pattern

/-- Switches that change what characters and anchors mean. -/
structure Flags where
  ignoreCase : Bool
  multiline : Bool
  dotAll : Bool
  deriving DecidableEq

/-- What a pattern is written for.  They differ in their blanks. -/
inductive Alphabet where
  | text | bytes
  deriving DecidableEq

/-- The named classes. -/
inductive Category where
  | digit | word | blank
  deriving DecidableEq

/-- A part of a character class: the characters from one to another, or a named
class or its complement. -/
inductive ClassItem where
  | range (first last : Char)
  | category (named : Category) (complement : Bool)
  deriving DecidableEq

/-- The characters that a single character of text is compared with. -/
inductive CharacterSet where
  | dot
  | among (complement : Bool) (items : List ClassItem)
  deriving DecidableEq

/-- A pattern without its switches.  A repetition takes `least` iterations and then
more, up to `most` in all when that is given; it prefers more of them when greedy. -/
inductive Node where
  | nothing
  | character (set : CharacterSet)
  | start
  | finish
  | sequence (first second : Node)
  | either (first second : Node)
  | repetition (body : Node) (least : Nat) (most : Option Nat) (greedy : Bool)

/-- The set of a single character. -/
def CharacterSet.single (character : Char) : CharacterSet :=
  .among false [.range character character]

/-- Whether a character belongs to a named class.  Letters and digits are those of
ASCII. -/
def Category.contains (alphabet : Alphabet) (character : Char) : Category → Bool
  | .digit => character.isDigit
  | .word => character.isAlphanum || character == '_'
  | .blank => match alphabet with
    | .text => Blank.isBlank character
    | .bytes => Blank.isAsciiBlank character

/-- The characters that a character stands for: itself, and its ASCII counterpart
when case is ignored. -/
def variants (ignoreCase : Bool) (character : Char) : List Char :=
  if ignoreCase then [character, character.toLower, character.toUpper] else [character]

/-- Whether a part of a class contains a character. -/
def ClassItem.contains (alphabet : Alphabet) (ignoreCase : Bool) (character : Char) :
    ClassItem → Bool
  | .range first last =>
      (variants ignoreCase character).any fun variant =>
        decide (first.toNat ≤ variant.toNat) && decide (variant.toNat ≤ last.toNat)
  | .category named complement => named.contains alphabet character != complement

/-- Whether a set contains a character.  The dot leaves out the line break unless it
is told to match all. -/
def CharacterSet.contains (alphabet : Alphabet) (flags : Flags) (character : Char) :
    CharacterSet → Bool
  | .dot => flags.dotAll || character != '\n'
  | .among complement items =>
      items.any (ClassItem.contains alphabet flags.ignoreCase character) != complement

end Pattern

/-- A pattern with its switches and the text it was read from. -/
structure Pattern where
  root : Pattern.Node
  flags : Pattern.Flags
  alphabet : Pattern.Alphabet
  source : String

end OrderedChoice
