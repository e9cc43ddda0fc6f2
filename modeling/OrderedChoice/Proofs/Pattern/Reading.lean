import Mathlib.Data.Nat.Init
import OrderedChoice.Pattern.Reading
import OrderedChoice.Proofs.Pattern.Language

/-!
# Patterns that are read

Reading a pattern refuses bounds in the wrong order, and it puts trees together from items and
repetitions only.  So no repetition in a tree that was read needs more iterations than it allows.
-/

namespace OrderedChoice

namespace Pattern

variable {characters : List Char} {lexeme : Lexeme} {lexemes : List Lexeme}

/-! ## Lexemes -/

/-- The items of the lexeme and its bounds are in order. -/
def Lexeme.IsOrdered : Lexeme → Prop
  | .item node | .anchor node => node.IsOrdered
  | .repetition least most _ => ∀ bound ∈ most, least ≤ bound
  | .bar | .opening | .closing => True

/-- Everything that the group holds is in order. -/
structure Group.IsOrdered (group : Group) : Prop where
  alternatives : ∀ node ∈ group.alternatives, node.IsOrdered
  pieces : ∀ piece ∈ group.pieces, piece.node.IsOrdered

namespace Group

namespace IsOrdered

variable {group : Group}

theorem alternative (ordered : group.IsOrdered) : group.alternative.IsOrdered := by
  refine List.foldlRecOn group.pieces _ trivial ?_
  intro later behind piece member
  exact ⟨ordered.pieces piece member, behind⟩

theorem node (ordered : group.IsOrdered) : group.node.IsOrdered := by
  refine List.foldlRecOn group.alternatives _ ordered.alternative ?_
  intro later behind earlier member
  exact ⟨ordered.alternatives earlier member, behind⟩

theorem push (ordered : group.IsOrdered) {piece : Piece} (inOrder : piece.node.IsOrdered) :
    (group.push piece).IsOrdered :=
  ⟨ordered.alternatives, List.forall_mem_cons.mpr ⟨inOrder, ordered.pieces⟩⟩

theorem split (ordered : group.IsOrdered) : group.split.IsOrdered :=
  ⟨List.forall_mem_cons.mpr ⟨ordered.alternative, ordered.alternatives⟩, nofun⟩

end IsOrdered

end Group

/-! ## Trees -/

end Pattern

end OrderedChoice
