import Mathlib.Data.Int.Order.Basic
import Mathlib.Data.Prod.Lex
import OrderedChoice.Parser.Whole
import OrderedChoice.Proofs.Position

/-!
# The order of positions

Every step through a text leads to a later line, or further along the same line: a line break
takes back the column but not the line, and a tab only ever skips columns.  So no two offsets of
a text share their position, and the position of an error says how much input was left where it
arose.
-/

namespace OrderedChoice

namespace Position

variable {position : Position} {characters : List Char} {offset : Nat} {name : String}

/-- Line and column, compared in this order. -/
def place (position : Position) : ℤ ×ₗ ℤ := toLex (position.line, position.column)

/-- Lines and columns are counted from one. -/
structure IsCounted (position : Position) : Prop where
  line : 1 ≤ position.line
  column : 1 ≤ position.column

/-! ## One step -/

theorem place_lt_advance (position : Position) (token : Value) :
    position.place < (position.advance token).place := by
  rw [place, place, Prod.Lex.toLex_lt_toLex]
  unfold advance
  split
  · exact Or.inl (Int.lt_succ position.line)
  · split
    · have less : (position.column - 1) % 8 < 8 := Int.emod_lt_of_pos _ (by decide)
      exact Or.inr ⟨rfl, by dsimp only; omega⟩
    · exact Or.inr ⟨rfl, Int.lt_succ position.column⟩

theorem IsCounted.advance (counted : position.IsCounted) (token : Value) :
    (position.advance token).IsCounted := by
  rcases counted with ⟨line, column⟩
  unfold Position.advance
  split
  · exact ⟨by dsimp only; omega, Int.le_refl 1⟩
  · split
    · have less : (position.column - 1) % 8 < 8 := Int.emod_lt_of_pos _ (by decide)
      exact ⟨line, by dsimp only; omega⟩
    · exact ⟨line, by dsimp only; omega⟩

/-- A tab leads to a column that is one more than a multiple of eight. -/
theorem column_advance_tab (position : Position) :
    (position.advance (Value.ofChar '\t')).column % 8 = 1 := by
  have noBreak : (Value.ofChar '\t' == .text "\n") = false := Value.ofChar_beq '\t' '\n'
  have isTab : (Value.ofChar '\t' == .text "\t") = true := Value.ofChar_beq '\t' '\t'
  rw [advance, noBreak, isTab, if_neg Bool.false_ne_true, if_pos rfl]
  dsimp only
  omega

/-! ## All the steps to an offset -/

theorem IsCounted.walk (counted : position.IsCounted) (characters : List Char) :
    (position.walk characters).IsCounted := by
  induction characters using List.reverseRecOn with
  | nil => exact counted
  | append_singleton characters last earlier =>
      rw [walk_concat]
      exact earlier.advance _

theorem isCounted_ofOffset (within : offset ≤ characters.length) (name : String) :
    (ofOffset (.text characters) offset name).IsCounted := by
  have start : IsCounted ⟨1, 1, name⟩ := ⟨Int.le_refl 1, Int.le_refl 1⟩
  rw [ofOffset_text characters within]
  exact start.walk _

/-- The next offset is one step further. -/
theorem ofOffset_succ (inside : offset < characters.length) (name : String) :
    ofOffset (.text characters) (offset + 1 : Nat) name =
      (ofOffset (.text characters) offset name).advance (Value.ofChar characters[offset]) := by
  rw [ofOffset_text characters inside, ofOffset_text characters (Nat.le_of_lt inside),
    List.take_succ_eq_append_getElem inside, walk_concat]

theorem place_lt_place_succ (inside : offset < characters.length) (name : String) :
    (ofOffset (.text characters) offset name).place <
      (ofOffset (.text characters) (offset + 1 : Nat) name).place := by
  rw [ofOffset_succ inside]
  exact place_lt_advance _ _

/-- A larger offset has a later position. -/
theorem place_lt_place {earlier later : Nat} (before : earlier < later)
    (within : later ≤ characters.length) (name : String) :
    (ofOffset (.text characters) earlier name).place <
      (ofOffset (.text characters) later name).place := by
  induction later, before using Nat.le_induction with
  | base => exact place_lt_place_succ within name
  | succ later _ reached =>
      exact lt_trans (reached (Nat.le_of_succ_le within)) (place_lt_place_succ within name)

/-- No two offsets have the same position. -/
theorem eq_of_ofOffset_eq {other : Nat} (within : offset ≤ characters.length)
    (otherWithin : other ≤ characters.length)
    (same : ofOffset (.text characters) offset name = ofOffset (.text characters) other name) :
    offset = other := by
  rcases Nat.lt_trichotomy offset other with less | equal | more
  · have earlier := place_lt_place less otherWithin name
    rw [same] at earlier
    exact absurd earlier (lt_irrefl _)
  · exact equal
  · have later := place_lt_place more within name
    rw [same] at later
    exact absurd later (lt_irrefl _)

end Position

/-! ## Positions of errors -/

/-- An error that knows how much input was left has the position of an offset. -/
theorem ParseError.exists_position? {error : ParseError} {remaining : Int}
    (located : error.remaining = some remaining) (nonneg : 0 ≤ remaining) (origin : Stream)
    (within : remaining ≤ origin.length) (name : String) :
    ∃ offset : Nat, offset ≤ origin.length ∧ remaining = origin.length - offset ∧
      error.position? origin name = some (.ofOffset origin offset name) := by
  rcases Int.eq_ofNat_of_zero_le (Int.sub_nonneg_of_le within) with ⟨offset, counts⟩
  refine ⟨offset, by omega, by omega, ?_⟩
  rw [ParseError.position?, located, Option.map_some, counts]

namespace Position

/-- Positions in a text keep the order of the offsets, strictly.  They are counted from one, and a
tab leads to a column that is one more than a multiple of eight.  Two errors of parses of the same
text therefore have the same position only where the same amount of input was left, and the one
with more input left has the earlier position. -/
theorem positions_identify_offsets (characters : List Char) (name : String) :
    (∀ earlier later : Nat, earlier < later → later ≤ characters.length →
      (ofOffset (.text characters) earlier name).place <
        (ofOffset (.text characters) later name).place) ∧
    (∀ offset : Nat, offset ≤ characters.length →
      1 ≤ (ofOffset (.text characters) offset name).line ∧
        1 ≤ (ofOffset (.text characters) offset name).column) ∧
    (∀ (offset : Nat) (inside : offset < characters.length), characters[offset] = '\t' →
      (ofOffset (.text characters) (offset + 1 : Nat) name).column % 8 = 1) ∧
    (∀ (error other : ParseError) (remaining more : Int),
      error.remaining = some remaining → 0 ≤ remaining → remaining ≤ characters.length →
      other.remaining = some more → 0 ≤ more → more ≤ characters.length →
      (error.position? (.text characters) name = other.position? (.text characters) name →
        remaining = more) ∧
      (remaining < more → ∃ position earlier,
        error.position? (.text characters) name = some position ∧
        other.position? (.text characters) name = some earlier ∧
        earlier.place < position.place)) := by
  refine ⟨?_, ?_, ?_, ?_⟩
  · intro earlier later before within
    exact place_lt_place before within name
  · intro offset within
    have counted := isCounted_ofOffset within name
    exact ⟨counted.line, counted.column⟩
  · intro offset inside isTab
    rw [ofOffset_succ inside, isTab]
    exact column_advance_tab _
  · intro error other remaining more located nonneg within otherLocated otherNonneg otherWithin
    rcases ParseError.exists_position? located nonneg (.text characters) within name with
      ⟨offset, inText, counts, position⟩
    rcases ParseError.exists_position? otherLocated otherNonneg (.text characters) otherWithin
      name with ⟨earlier, otherInText, otherCounts, otherPosition⟩
    constructor
    · intro same
      rw [position, otherPosition, Option.some.injEq] at same
      rw [counts, otherCounts, eq_of_ofOffset_eq inText otherInText same]
    · intro less
      have before : earlier < offset := by omega
      exact ⟨_, _, position, otherPosition, place_lt_place before inText name⟩

/-- Two errors in a text with a tab and a line break. -/
theorem positions_of_tabbed_lines :
    let text := Stream.text ['a', '\t', 'b', '\n', 'c']
    let error := ParseError.unexpected (.text "digit") (.text "c") (some 1)
    let other := ParseError.zeroWidth "many" (some 3)
    (ofOffset text 2 "").column % 8 = 1 ∧
    (ofOffset text 2 "").place < (ofOffset text 4 "").place ∧
    (1 ≤ (ofOffset text 4 "").line ∧ 1 ≤ (ofOffset text 4 "").column) ∧
    error.position? text "" ≠ other.position? text "" ∧
    ∃ position earlier, error.position? text "" = some position ∧
      other.position? text "" = some earlier ∧ earlier.place < position.place := by
  intro text error other
  have identify := positions_identify_offsets ['a', '\t', 'b', '\n', 'c'] ""
  have errors := identify.2.2.2 error other 1 3 rfl (by decide) (by decide) rfl (by decide)
    (by decide)
  refine ⟨identify.2.2.1 1 (by decide) rfl, identify.1 2 4 (by decide) (by decide),
    identify.2.1 4 (by decide), ?_, errors.2 (by decide)⟩
  intro same
  exact absurd (errors.1 same) (by decide)

end Position

end OrderedChoice
