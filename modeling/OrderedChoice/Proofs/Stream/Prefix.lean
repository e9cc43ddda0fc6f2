import Mathlib.Data.List.Forall2
import OrderedChoice.Stream

/-!
# Beginnings of streams

A stream begins with a literal when the elements of the literal stand at its front, each
equal to its counterpart as a value.  Text and bytes are compared by their own elements,
which comes to the same.
-/

namespace OrderedChoice

theorem Value.ofChar_beq (first second : Char) :
    (Value.ofChar first == Value.ofChar second) = (first == second) := by
  change decide (String.singleton first = String.singleton second) = _
  rw [Bool.eq_iff_iff, decide_eq_true_iff, String.singleton_inj, beq_iff_eq]

theorem Value.ofByte_beq (first second : UInt8) :
    (Value.ofByte first == Value.ofByte second) = (first == second) := by
  change decide ((first.toNat : Int) = second.toNat) = _
  rw [Bool.eq_iff_iff, decide_eq_true_iff, beq_iff_eq, Int.natCast_inj, UInt8.toNat_inj]

namespace Stream

/-- The elements of the literal stand at the front of the stream. -/
def BeginsWith (stream literal : Stream) : Prop :=
  List.Forall₂ (fun element wanted => (element == wanted) = true)
    (stream.toList.take literal.length) literal.toList

/-- Comparing two lists by the elements they are made of is comparing them by their values. -/
theorem isPrefixOf_iff {α : Type} [BEq α] [LawfulBEq α] {value : α → Value}
    (faithful : ∀ first second, (value first == value second) = (first == second))
    (literal elements : List α) :
    literal.isPrefixOf elements = true ↔
      List.Forall₂ (fun element wanted => (element == wanted) = true)
        ((elements.map value).take literal.length) (literal.map value) := by
  induction literal generalizing elements with
  | nil =>
      simp only [List.isPrefixOf_nil_left, List.length_nil, List.take_zero, List.map_nil,
        List.Forall₂.nil]
  | cons wanted literal later =>
      cases elements with
      | nil =>
          constructor
          · intro starts
            cases starts
          · intro matched
            cases matched
      | cons element elements =>
          rw [List.isPrefixOf_cons_cons, Bool.and_eq_true, later]
          constructor
          · intro starts
            rcases starts with ⟨same, matched⟩
            refine .cons ?_ matched
            rw [faithful, eq_of_beq same, beq_self_eq_true]
          · intro matched
            cases matched with
            | cons same matched =>
                rw [faithful] at same
                refine ⟨?_, matched⟩
                rw [eq_of_beq same, beq_self_eq_true]

/-- Comparing element by element with the length asked for in advance. -/
theorem all_zip_iff (elements wanted : List Value) :
    (decide (wanted.length ≤ elements.length) &&
        (elements.zip wanted).all fun (element, value) => element == value) = true ↔
      List.Forall₂ (fun element value => (element == value) = true)
        (elements.take wanted.length) wanted := by
  induction wanted generalizing elements with
  | nil => simp
  | cons value wanted later =>
      cases elements with
      | nil =>
          constructor
          · intro starts
            cases starts
          · intro matched
            cases matched
      | cons element elements =>
          rw [List.length_cons, List.take_succ_cons, List.zip_cons_cons, List.all_cons,
            List.forall₂_cons, ← later]
          simp [and_left_comm]

theorem startsWith_iff (stream literal : Stream) :
    stream.startsWith literal = true ↔ stream.BeginsWith literal := by
  unfold startsWith BeginsWith
  split
  · rename_i characters first
    have same := isPrefixOf_iff Value.ofChar_beq first characters
    exact same
  · rename_i content first
    have same := isPrefixOf_iff Value.ofByte_beq first content
    exact same
  · rw [← length_toList literal, ← length_toList stream]
    exact all_zip_iff stream.toList literal.toList

/-- A stream is no shorter than what it begins with. -/
theorem BeginsWith.length_le {stream literal : Stream} (begins : stream.BeginsWith literal) :
    literal.length ≤ stream.length := by
  have sameLength := List.Forall₂.length_eq begins
  rw [List.length_take, length_toList, length_toList] at sameLength
  omega

/-- Every stream begins with nothing. -/
theorem startsWith_of_length_eq_zero (stream : Stream) {literal : Stream}
    (empty : literal.length = 0) : stream.startsWith literal = true := by
  have noElements : literal.toList = [] := by
    rw [← List.length_eq_zero_iff, length_toList, empty]
  rw [startsWith_iff, BeginsWith, empty, noElements, List.take_zero]
  exact .nil

end Stream

end OrderedChoice
