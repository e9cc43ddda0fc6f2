import Mathlib.Data.List.Induction
import OrderedChoice.Position
import OrderedChoice.Proofs.Stream.Prefix

/-!
# Walking to a position

The position of an offset in a text is found by counting line breaks and walking the last
line only.  Walking the whole text in front of the offset, character by character, leads to
the same position.
-/

namespace OrderedChoice

namespace Position

/-- The position behind some characters that stand at this position. -/
def walk (position : Position) (characters : List Char) : Position :=
  characters.foldl (fun reached character => reached.advance (Value.ofChar character)) position

theorem walk_concat (position : Position) (characters : List Char) (last : Char) :
    position.walk (characters ++ [last]) =
      (position.walk characters).advance (Value.ofChar last) := by
  simp only [walk, List.foldl_append, List.foldl_cons, List.foldl_nil]

theorem advance_lineBreak (position : Position) :
    position.advance (Value.ofChar '\n') = ⟨position.line + 1, 1, position.name⟩ := by
  have same : (Value.ofChar '\n' == .text "\n") = true := Value.ofChar_beq '\n' '\n'
  rw [advance, if_pos same]

/-- Only a line break leads to another line. -/
theorem line_advance (position : Position) {character : Char} (within : character ≠ '\n') :
    (position.advance (Value.ofChar character)).line = position.line := by
  have differs : (Value.ofChar character == .text "\n") = false :=
    (Value.ofChar_beq character '\n').trans (beq_eq_false_iff_ne.mpr within)
  rw [advance, differs, if_neg Bool.false_ne_true]
  split <;> rfl

theorem name_advance (position : Position) (token : Value) :
    (position.advance token).name = position.name := by
  unfold advance
  split
  · rfl
  · split <;> rfl

theorem line_walk (position : Position) (characters : List Char) :
    (position.walk characters).line = position.line + characters.count '\n' := by
  induction characters using List.reverseRecOn with
  | nil => exact (Int.add_zero _).symm
  | append_singleton characters last earlier =>
      rw [walk_concat, List.count_append, List.count_singleton]
      by_cases isBreak : last = '\n'
      · subst isBreak
        rw [advance_lineBreak, earlier, beq_self_eq_true, if_pos rfl, Int.natCast_succ]
        exact Int.add_assoc _ _ _
      · rw [line_advance _ isBreak, earlier, beq_eq_false_iff_ne.mpr isBreak,
          if_neg Bool.false_ne_true, Nat.add_zero]

theorem name_walk (position : Position) (characters : List Char) :
    (position.walk characters).name = position.name := by
  induction characters using List.reverseRecOn with
  | nil => rfl
  | append_singleton characters last earlier => rw [walk_concat, name_advance, earlier]

theorem lastLine_concat (characters : List Char) (last : Char) :
    lastLine (characters ++ [last]) = if last = '\n' then [] else lastLine characters ++ [last] := by
  rw [lastLine, List.reverse_append, List.reverse_singleton, List.singleton_append,
    List.takeWhile_cons]
  by_cases isBreak : last = '\n'
  · rw [if_pos isBreak, isBreak]
    rfl
  · rw [if_neg isBreak, decide_eq_true isBreak, if_pos rfl, List.reverse_cons]
    rfl

/-- A walk through a text ends in the line that the breaks count, and as far into it as the
last line leads. -/
theorem walk_eq_walk_lastLine (name : String) (characters : List Char) :
    walk ⟨1, 1, name⟩ characters =
      walk ⟨characters.count '\n' + 1, 1, name⟩ (lastLine characters) := by
  induction characters using List.reverseRecOn with
  | nil => rfl
  | append_singleton characters last earlier =>
      rw [walk_concat, lastLine_concat, List.count_append, List.count_singleton]
      by_cases isBreak : last = '\n'
      · subst isBreak
        rw [if_pos rfl, advance_lineBreak, line_walk, name_walk, beq_self_eq_true, if_pos rfl]
        simp only [walk, List.foldl_nil, Position.mk.injEq, and_self, and_true]
        omega
      · rw [if_neg isBreak, walk_concat, earlier, beq_eq_false_iff_ne.mpr isBreak,
          if_neg Bool.false_ne_true, Nat.add_zero]

/-- The position of a cut in a text, wherever it falls, is reached by walking all that stands in
front of the cut. -/
theorem ofOffset_text_cut (characters : List Char) (offset : Int) (name : String) :
    ofOffset (.text characters) offset name =
      walk ⟨1, 1, name⟩ (characters.take ((Stream.text characters).cut offset)) := by
  rw [walk_eq_walk_lastLine]
  rfl

/-- The position of an offset in a text is reached by walking all that stands in front of
the offset. -/
theorem ofOffset_text (characters : List Char) {offset : Nat}
    (within : offset ≤ characters.length) (name : String) :
    ofOffset (.text characters) offset name = walk ⟨1, 1, name⟩ (characters.take offset) := by
  have cut : (Stream.text characters).cut offset = offset := by
    rw [Stream.cut_natCast]
    exact Nat.min_eq_left within
  rw [ofOffset_text_cut, cut]

/-- Counting the line breaks and walking the last line leads where the single steps lead that
begin in the first line and column and take everything in front of the offset, one character
after the other. -/
theorem ofOffset_eq_foldl_advance (characters : List Char) (offset : Nat) (name : String) :
    ofOffset (.text characters) offset name =
      (characters.take offset).foldl
        (fun position character => position.advance (Value.ofChar character)) ⟨1, 1, name⟩ := by
  rcases Nat.le_total offset characters.length with within | beyond
  · exact ofOffset_text characters within name
  · -- behind the end there is nothing more to walk
    have cut : (Stream.text characters).cut offset = characters.length := by
      rw [Stream.cut_natCast]
      exact Nat.min_eq_right beyond
    rw [ofOffset_text_cut, cut, List.take_length, List.take_of_length_le beyond]
    rfl

example : ofOffset (.text ['a', '\t', 'b', '\n', '\t', 'c']) 5 "" = ⟨2, 9, ""⟩ := rfl

end Position

end OrderedChoice
