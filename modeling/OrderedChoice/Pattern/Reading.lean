import OrderedChoice.Pattern.Lexeme

/-!
# Reading patterns

Lexemes are put together from left to right.  Every bracket that is still open has a
group with the alternatives that are finished and the items of the one at work, so
the tree is built in one pass.
-/

namespace OrderedChoice

namespace Pattern

/-- An item of an alternative.  Anchors and repetitions cannot be repeated. -/
structure Piece where
  node : Node
  repeatable : Bool

/-- An open group.  Both lists hold the latest entry first. -/
structure Group where
  alternatives : List Node
  pieces : List Piece

namespace Group

/-- A group in which nothing has been read. -/
def fresh : Group := ⟨[], []⟩

/-- The items of the alternative at work, in order. -/
def alternative (group : Group) : Node :=
  group.pieces.foldl (fun later piece => .sequence piece.node later) .nothing

/-- The group as a choice of its alternatives, in order. -/
def node (group : Group) : Node :=
  group.alternatives.foldl (fun later earlier => .either earlier later) group.alternative

/-- Add an item to the alternative at work. -/
def push (group : Group) (piece : Piece) : Group :=
  { group with pieces := piece :: group.pieces }

/-- Finish the alternative at work and begin another. -/
def split (group : Group) : Group := ⟨group.alternative :: group.alternatives, []⟩

end Group

/-- Add a lexeme to the innermost open group.  Refused are a repetition mark without
an item to repeat, and a closing bracket where none is open. -/
def assemble? : Group × List Group → Lexeme → Option (Group × List Group)
  | (group, outer), .item node => some (group.push ⟨node, true⟩, outer)
  | (group, outer), .anchor node => some (group.push ⟨node, false⟩, outer)
  | (group, outer), .bar => some (group.split, outer)
  | (group, outer), .opening => some (.fresh, group :: outer)
  | (_, []), .closing => none
  | (group, enclosing :: outer), .closing => some (enclosing.push ⟨group.node, true⟩, outer)
  | (group, outer), .repetition least most greedy =>
      match group.pieces with
      | ⟨body, true⟩ :: earlier =>
          some ({ group with
            pieces := ⟨.repetition body least most greedy, false⟩ :: earlier }, outer)
      | _ => none

/-- The tree of a written pattern, when it is well formed. -/
def Node.ofText? (source : String) : Option Node := do
  let lexemes ← lexemes? source.toList
  match ← lexemes.foldlM assemble? (.fresh, []) with
  | (group, []) => return group.node
  | _ => none

end Pattern

/-- Read a pattern. -/
def Pattern.ofText? (source : String) (flags : Pattern.Flags) (alphabet : Pattern.Alphabet) :
    Option Pattern :=
  (Pattern.Node.ofText? source).map (⟨·, flags, alphabet, source⟩)

end OrderedChoice
