import OrderedChoice.Pattern.Basic

/-!
# Matching patterns

A pattern is matched at the start of a text by depth-first search: earlier
alternatives come first, and a repetition tries one more iteration before or after
stopping, as it is greedy or not.  What follows a part is a continuation, so a part is
tried again in another way where its continuation fails.

An iteration that is not required and that matched nothing is not repeated.  Another
one would start at the same spot and match the same, so nothing is lost, and every
further iteration leaves less text.
-/

namespace OrderedChoice

namespace Pattern

/-- A place between two characters: the character in front of it, if any, and the
text behind it. -/
structure Spot where
  previous : Option Char
  rest : List Char
  deriving DecidableEq

/-- A search that starts at a spot and goes on with what follows it. -/
abbrev Search : Type := Spot → (Spot → Option Spot) → Option Spot

namespace Search

/-- A required number of iterations. -/
def times (step : Search) : Nat → Search
  | 0, spot, next => next spot
  | count + 1, spot, next => step spot fun later => times step count later next

/-- Iterations that are not required, within a budget when there is one. -/
def further (step : Search) (greedy : Bool) (budget : Option Nat) (spot : Spot)
    (next : Spot → Option Spot) : Option Spot :=
  if budget = some 0 then next spot
  else
    let again (_ : Unit) := step spot fun later =>
      if later.rest.length < spot.rest.length then
        further step greedy (budget.map (· - 1)) later next
      else next later
    if greedy then again () <|> next spot else next spot <|> again ()
termination_by spot.rest.length

end Search

/-- Whether a spot is the start of the text, or of a line when lines count. -/
def Spot.isStart (flags : Flags) (spot : Spot) : Bool :=
  match spot.previous with
  | none => true
  | some character => flags.multiline && character == '\n'

/-- Whether a spot is the end of the text or stands before a line break that ends it,
or is the end of any line when lines count. -/
def Spot.isFinish (flags : Flags) (spot : Spot) : Bool :=
  match spot.rest with
  | [] => true
  | character :: more => character == '\n' && (flags.multiline || more.isEmpty)

/-- The search for a pattern. -/
def Node.search (alphabet : Alphabet) (flags : Flags) : Node → Search
  | .nothing, spot, next => next spot
  | .character set, spot, next =>
      match spot.rest with
      | [] => none
      | first :: rest =>
          if set.contains alphabet flags first then next ⟨some first, rest⟩ else none
  | .start, spot, next => if spot.isStart flags then next spot else none
  | .finish, spot, next => if spot.isFinish flags then next spot else none
  | .sequence first second, spot, next =>
      first.search alphabet flags spot fun later => second.search alphabet flags later next
  | .either first second, spot, next =>
      first.search alphabet flags spot next <|> second.search alphabet flags spot next
  | .repetition body least most greedy, spot, next =>
      Search.times (body.search alphabet flags) least spot fun later =>
        Search.further (body.search alphabet flags) greedy (most.map (· - least)) later next

end Pattern

/-- The number of characters that the preferred match at the start of a text takes. -/
def Pattern.matchLength? (pattern : Pattern) (characters : List Char) : Option Nat :=
  (pattern.root.search pattern.alphabet pattern.flags ⟨none, characters⟩ some).map fun final =>
    characters.length - final.rest.length

end OrderedChoice
