import OrderedChoice.Value.Equality

/-!
# Streams

A stream is what a parser reads: text, bytes, or a list or tuple of values.  Every
kind is seen through `toList` as a sequence of values, a character being text of
length one and a byte an integer.  Cutting a stream keeps its kind.
-/

namespace OrderedChoice

/-- The input of a parser, or what is left of it. -/
inductive Stream where
  | text (characters : List Char)
  | bytes (content : List UInt8)
  | list (items : List Value)
  | tuple (items : List Value)

namespace Stream

/-- The elements of a stream as values. -/
def toList : Stream → List Value
  | .text characters => characters.map Value.ofChar
  | .bytes content => content.map Value.ofByte
  | .list items | .tuple items => items

/-- The number of elements. -/
def length : Stream → Nat
  | .text characters => characters.length
  | .bytes content => content.length
  | .list items | .tuple items => items.length

@[simp]
theorem length_toList (stream : Stream) : stream.toList.length = stream.length := by
  cases stream <;> simp [toList, length]

/-- The first element, when there is one. -/
def head? : Stream → Option Value
  | .text characters => characters.head?.map Value.ofChar
  | .bytes content => content.head?.map Value.ofByte
  | .list items | .tuple items => items.head?

/-- The first elements, or all of them when there are fewer. -/
def take (count : Nat) : Stream → Stream
  | .text characters => .text (characters.take count)
  | .bytes content => .bytes (content.take count)
  | .list items => .list (items.take count)
  | .tuple items => .tuple (items.take count)

/-- The stream without its first elements. -/
def drop (count : Nat) : Stream → Stream
  | .text characters => .text (characters.drop count)
  | .bytes content => .bytes (content.drop count)
  | .list items => .list (items.drop count)
  | .tuple items => .tuple (items.drop count)

theorem head?_eq (stream : Stream) : stream.head? = stream.toList.head? := by
  cases stream <;> simp [head?, toList]

@[simp]
theorem toList_take (count : Nat) (stream : Stream) :
    (stream.take count).toList = stream.toList.take count := by
  cases stream <;> simp [take, toList, List.map_take]

@[simp]
theorem toList_drop (count : Nat) (stream : Stream) :
    (stream.drop count).toList = stream.toList.drop count := by
  cases stream <;> simp [drop, toList, List.map_drop]

@[simp]
theorem length_drop (count : Nat) (stream : Stream) :
    (stream.drop count).length = stream.length - count := by
  rw [← length_toList, toList_drop, List.length_drop, length_toList]

/-- The number of elements in front of a cut.  A negative cut counts from the end,
and a cut outside the stream stops at its nearer end. -/
def cut (stream : Stream) (position : Int) : Nat :=
  if 0 ≤ position then min position.toNat stream.length
  else stream.length - (-position).toNat

theorem cut_natCast (stream : Stream) (count : Nat) :
    stream.cut count = min count stream.length := by
  rw [cut, if_pos (Int.natCast_nonneg count), Int.toNat_natCast]

/-- The part in front of a cut. -/
def before (stream : Stream) (position : Int) : Stream := stream.take (stream.cut position)

/-- The part behind a cut. -/
def after (stream : Stream) (position : Int) : Stream := stream.drop (stream.cut position)

/-- Whether the stream begins with the elements of the other one.  Text and bytes
are compared by their own elements, and any other pair of kinds value by value. -/
def startsWith (stream literal : Stream) : Bool :=
  match stream, literal with
  | .text characters, .text first => first.isPrefixOf characters
  | .bytes content, .bytes first => first.isPrefixOf content
  | stream, literal =>
      decide (literal.length ≤ stream.length) &&
        (stream.toList.zip literal.toList).all fun (element, wanted) => element == wanted

/-- How many elements lie between a stream and a later rest of it.  The count is
negative when the rest is the longer one. -/
def consumed (origin rest : Stream) : Int := (origin.length : Int) - rest.length

/-- The stream as a value of its own kind. -/
def toValue : Stream → Value
  | .text characters => .text (String.ofList characters)
  | .bytes content => .bytes content
  | .list items => .list items
  | .tuple items => .tuple items

/-- Put the elements of one stream in front of another of the same kind. -/
def append? : Stream → Stream → Option Stream
  | .text first, .text second => some (.text (first ++ second))
  | .bytes first, .bytes second => some (.bytes (first ++ second))
  | .list first, .list second => some (.list (first ++ second))
  | .tuple first, .tuple second => some (.tuple (first ++ second))
  | _, _ => none

end Stream

/-- The stream that a value is, for the four kinds that have a length and elements. -/
def Value.toStream? : Value → Option Stream
  | .text content => some (.text content.toList)
  | .bytes content => some (.bytes content)
  | .list items => some (.list items)
  | .tuple items => some (.tuple items)
  | _ => none

end OrderedChoice
