import OrderedChoice.Stream

/-!
# Positions

A position is a line and a column, both counted from one, in an input that may have
a name.  Only text has lines.  A tab moves to the next column that is one more than
a multiple of eight.
-/

namespace OrderedChoice

/-- A place in an input that a reader can find. -/
structure Position where
  line : Int := 1
  column : Int := 1
  name : String := ""
  deriving DecidableEq

namespace Position

/-- The position behind a token that stands at this position. -/
def advance (position : Position) (token : Value) : Position :=
  if token == .text "\n" then
    { position with line := position.line + 1, column := 1 }
  else if token == .text "\t" then
    { position with column := position.column + 8 - (position.column - 1) % 8 }
  else
    { position with column := position.column + 1 }

/-- The characters behind the last line break. -/
def lastLine (characters : List Char) : List Char :=
  (characters.reverse.takeWhile (· ≠ '\n')).reverse

/-- The position of an offset.  The lines of a text are counted by their breaks, and
only the last one is walked to find the column.  Any other stream is a single line. -/
def ofOffset (origin : Stream) (offset : Int) (name : String) : Position :=
  match origin.before offset, origin with
  | .text passed, .text _ =>
      (lastLine passed).foldl (fun position character => position.advance (Value.ofChar character))
        ⟨passed.count '\n' + 1, 1, name⟩
  | _, _ => ⟨1, offset + 1, name⟩

/-- The position in words, led by the name of the input when it has one. -/
def text (position : Position) : String :=
  let place := "line " ++ toString position.line ++ ", column " ++ toString position.column
  if position.name.isEmpty then place else position.name ++ " " ++ place

end Position

end OrderedChoice
