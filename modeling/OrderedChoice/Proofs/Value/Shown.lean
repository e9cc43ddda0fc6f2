import OrderedChoice.Stream
import OrderedChoice.Value.Shown

/-!
# What messages show

Text is shown as it is, so the empty text is shown as nothing at all.  Every other value is
shown in its written form, and that has at least one character.
-/

namespace OrderedChoice

theorem Decimal.layout_ne_nil (decimal : Decimal) : decimal.layout ≠ [] := by
  -- either way of writing has a character of its own, the point or the mark of the exponent
  have positional : ∀ digits whole, Decimal.positional digits whole ≠ [] := by
    intro digits whole
    unfold Decimal.positional
    split <;> simp
  have scientific : ∀ digits exponent, Decimal.scientific digits exponent ≠ [] := by
    intro digits exponent
    simp [Decimal.scientific]
  simp only [layout]
  split
  · exact positional _ _
  · exact scientific _ _

theorem Binary64.text_ne_empty (number : Binary64) : number.text ≠ "" := by
  cases number with
  | notANumber => decide
  | infinite negative => cases negative <;> decide
  | finite negative significand exponent =>
      simp only [text, ne_eq, String.ofList_eq_empty_iff]
      split
      · exact List.cons_ne_nil _ _
      · split
        · exact List.cons_ne_nil _ _
        · exact Decimal.layout_ne_nil _

theorem Quoted.text_ne_empty (content : String) : Quoted.text content ≠ "" := by
  simp only [text, enclose, ne_eq, String.ofList_eq_empty_iff, List.cons_append, reduceCtorEq,
    not_false_eq_true]

theorem Quoted.bytes_ne_empty (content : List UInt8) : Quoted.bytes content ≠ "" := by
  simp only [bytes, ne_eq, String.ofList_eq_empty_iff, reduceCtorEq, not_false_eq_true]

namespace Value

theorem toString_int_ne_empty (number : Int) : toString number ≠ "" := by
  cases number with
  | ofNat magnitude => exact Nat.repr_ne_empty
  | negSucc magnitude =>
      intro empty
      exact absurd (String.append_eq_empty_iff.mp empty).1 (by decide)

/-- Only text can be written without a character. -/
theorem written_ne_empty (value : Value) : value.written ≠ "" := by
  unfold written
  split
  · decide
  · rename_i flag
    cases flag <;> decide
  · exact toString_int_ne_empty _
  · exact Binary64.text_ne_empty _
  · exact Quoted.text_ne_empty _
  · exact Quoted.bytes_ne_empty _
  all_goals simp [String.append_eq_empty_iff]

theorem shown_eq_empty_iff (value : Value) : value.shown = "" ↔ value = .text "" := by
  cases value with
  | text content => simp only [shown, text.injEq]
  | _ => simp only [shown, written_ne_empty, reduceCtorEq]

end Value

/-- A stream that has elements is never shown as nothing. -/
theorem Stream.shown_toValue_ne_empty {stream : Stream} (some : stream.length ≠ 0) :
    stream.toValue.shown ≠ "" := by
  intro empty
  cases stream with
  | text characters =>
      exact some (List.length_eq_zero_iff.mpr (String.ofList_eq_empty_iff.mp empty))
  | bytes | list | tuple => exact Value.written_ne_empty _ empty

end OrderedChoice
