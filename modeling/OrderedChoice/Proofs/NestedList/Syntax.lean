import OrderedChoice.Grammar.Rules
import OrderedChoice.Proofs.Scanner.Decimal

/-!
# Written nested lists

Lists of numbers and of further such lists, to any depth: what they are, how their grammar
reads them, and the texts in which they may be written.
-/

namespace OrderedChoice

/-- A natural number, or a list of numbers and lists. -/
inductive Nested where
  | number (value : Nat)
  | list (items : List Nested)

namespace Nested

open Scanner (AreDigits)

/-! ## Values -/

mutual

/-- The value that stands for a number or a list. -/
def toValue : Nested → Value
  | .number value => .int value
  | .list items => .list (toValues items)

/-- The values of the items of a list. -/
def toValues : List Nested → List Value
  | [] => []
  | item :: items => item.toValue :: toValues items

end

mutual

theorem toValue_injective : ∀ {first second : Nested}, first.toValue = second.toValue → first = second
  | .number _, .number _, same => by
      rw [toValue, toValue, Value.int.injEq, Int.natCast_inj] at same
      rw [same]
  | .list _, .list _, same => by
      rw [toValue, toValue, Value.list.injEq] at same
      rw [toValues_injective same]
  | .number _, .list _, same => by cases same
  | .list _, .number _, same => by cases same

theorem toValues_injective : ∀ {first second : List Nested},
    toValues first = toValues second → first = second
  | [], [], _ => rfl
  | item :: items, other :: others, same => by
      rw [toValues, toValues, List.cons.injEq] at same
      rw [toValue_injective same.1, toValues_injective same.2]
  | [], _ :: _, same => by cases same
  | _ :: _, [], same => by cases same

end

/-! ## The grammar -/

/-- A number, or the rule for lists. -/
def item : Grammar Unit := Scanner.decimalNumeral.orElse (.rule ())

/-- Items between brackets, with commas between them. -/
def grammar : Grammar Unit :=
  .between (Scanner.exactCharacter '[') (Scanner.exactCharacter ']')
    (item.separated (Scanner.exactCharacter ','))

/-- The one rule is the grammar itself. -/
def rules : Unit → Grammar Unit := fun _ => grammar

/-! ## Texts -/

/-- The texts in which a row of items may be written, one item at least.  Numerals may have
zeros in front, and there is no white space. -/
inductive Rendered : List Nested → List Char → Prop where
  | number {digits : List Char} (areDigits : AreDigits digits) :
      Rendered [.number (Nat.ofDigitChars 10 digits 0)] digits
  | nothing : Rendered [.list []] ['[', ']']
  | list {items : List Nested} {text : List Char} (inner : Rendered items text) :
      Rendered [.list items] ('[' :: (text ++ [']']))
  | more {item : Nested} {items : List Nested} {text others : List Char}
      (first : Rendered [item] text) (later : Rendered items others) :
      Rendered (item :: items) (text ++ ',' :: others)

theorem Rendered.ne_nil {items : List Nested} {text : List Char}
    (rendered : Rendered items text) : items ≠ [] := by
  cases rendered <;> exact List.cons_ne_nil _ _

mutual

/-- The text in which a number or a list is printed, without needless zeros. -/
def printed : Nested → List Char
  | .number value => Nat.toDigits 10 value
  | .list items => '[' :: (printedItems items ++ [']'])

/-- The text in which a row of items is printed. -/
def printedItems : List Nested → List Char
  | [] => []
  | [item] => item.printed
  | item :: next :: items => item.printed ++ ',' :: printedItems (next :: items)

end

theorem areDigits_toDigits (value : Nat) : AreDigits (Nat.toDigits 10 value) where
  ne_nil := Nat.toDigits_ne_nil
  isDigit _ member := Nat.isDigit_of_mem_toDigits (by decide) (by decide) member

mutual

theorem rendered_printed : ∀ nested : Nested, Rendered [nested] nested.printed
  | .number value => by
      have rendered := Rendered.number (areDigits_toDigits value)
      rw [Nat.ofDigitChars_toDigits (by decide) (by decide)] at rendered
      exact rendered
  | .list [] => .nothing
  | .list (item :: items) => .list (rendered_printedItems (item :: items) (List.cons_ne_nil _ _))

theorem rendered_printedItems : ∀ items : List Nested, items ≠ [] →
    Rendered items (printedItems items)
  | [], present => absurd rfl present
  | [item], _ => rendered_printed item
  | item :: next :: items, _ =>
      .more (rendered_printed item) (rendered_printedItems (next :: items) (List.cons_ne_nil _ _))

end

end Nested

end OrderedChoice
