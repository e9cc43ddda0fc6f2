import Mathlib.Data.List.Induction
import OrderedChoice.Proofs.Scanner.Integer

/-!
# Positional notation

Every number has its digits in every base, and they may be written behind any number of zeros and
with capital letters among them.  There are no other ways to write the number: a row of digits
denotes one number, and after its leading zeros it is that number's own row.  The parser for the
numbers of a base therefore undoes the notation, wherever the digits end.
-/

namespace OrderedChoice

namespace Scanner

namespace Base

variable {base : Base} {numerals front : List Char} {denoted count : Nat} {digit last : Char}

/-- In small letters, the numerals are the digits of the number behind some zeros. -/
def Spells (base : Base) (numerals : List Char) (denoted : Nat) : Prop :=
  ∃ zeros, numerals.map Char.toLower =
    List.replicate zeros '0' ++ Nat.toDigits base.radix denoted

theorem one_lt_radix (base : Base) : 1 < base.radix := by
  cases base <;> decide

/-! ## Single digits -/

theorem digitChar_digitOf (member : digit ∈ base.digits) :
    digitOf digit < base.radix ∧ Nat.digitChar (digitOf digit) = digit.toLower := by
  have all : base.digits.all (fun digit => decide (digitOf digit < base.radix ∧
      Nat.digitChar (digitOf digit) = digit.toLower)) = true := by
    cases base <;> decide
  exact of_decide_eq_true (List.all_eq_true.mp all digit member)

theorem digitChar_mem_digits (within : count < base.radix) :
    Nat.digitChar count ∈ base.digits := by
  have all : ∀ count < base.radix, Nat.digitChar count ∈ base.digits := by
    cases base <;> decide
  exact all count within

theorem toNat_lt_of_toLower (within : count < base.radix)
    (small : digit.toLower = Nat.digitChar count) : digit.toNat < 128 := by
  by_cases capital : digit.isUpper = true
  · have letter : digit.isAlpha = true := Bool.or_eq_true_iff.mpr (Or.inl capital)
    exact toNat_lt_of_isAlphanum (Bool.or_eq_true_iff.mpr (Or.inl letter))
  · have unchanged : digit.toLower = digit :=
      dif_neg fun range => capital (decide_eq_true range)
    rw [← unchanged, small]
    exact toNat_lt_of_mem_digits (digitChar_mem_digits within)

/-- A character whose small letter is a digit of the base is itself one, and counts as much. -/
theorem mem_digits_of_toLower (within : count < base.radix)
    (small : digit.toLower = Nat.digitChar count) :
    digit ∈ base.digits ∧ digitOf digit = count := by
  have all : ∀ count < base.radix, ((List.range 128).map Char.ofNat).all (fun digit => decide
      (digit.toLower = Nat.digitChar count → digit ∈ base.digits ∧ digitOf digit = count)) =
        true := by
    cases base <;> decide +kernel
  have listed := mem_ascii (toNat_lt_of_toLower within small)
  exact of_decide_eq_true (List.all_eq_true.mp (all count within) digit listed) small

/-! ## Rows of digits -/

/-- A further digit moves the earlier ones up by a place. -/
theorem number_concat (base : Base) (front : List Char) (last : Char) :
    base.number (front ++ [last]) = base.radix * base.number front + digitOf last := by
  rw [number, number, ← Nat.ofDigits_eq_sum_mapIdx, ← Nat.ofDigits_eq_sum_mapIdx,
    List.map_append, List.map_singleton, List.reverse_append, List.reverse_singleton,
    List.singleton_append, Nat.ofDigits_cons, Nat.add_comm]

theorem spells_digit (isDigit : digit ∈ base.digits) : base.Spells [digit] (digitOf digit) := by
  rcases digitChar_digitOf isDigit with ⟨within, small⟩
  refine ⟨0, ?_⟩
  rw [Nat.toDigits_of_lt_base within, small]
  rfl

theorem Spells.concat (spells : base.Spells front denoted) (isDigit : last ∈ base.digits) :
    base.Spells (front ++ [last]) (base.radix * denoted + digitOf last) := by
  rcases spells with ⟨zeros, written⟩
  rcases digitChar_digitOf isDigit with ⟨within, small⟩
  have single : Nat.toDigits base.radix (digitOf last) = [last.toLower] := by
    rw [Nat.toDigits_of_lt_base within, small]
  rw [Spells, List.map_append, List.map_singleton, written]
  rcases Nat.eq_zero_or_pos denoted with none | some
  · -- the zero in front is one more leading zero now
    refine ⟨zeros + 1, ?_⟩
    rw [none, Nat.mul_zero, Nat.zero_add, single, Nat.toDigits_zero, List.replicate_succ']
  · refine ⟨zeros, ?_⟩
    rw [← Nat.toDigits_append_toDigits base.one_lt_radix some within, single, List.append_assoc]

/-- A row of digits spells the number that it adds up to. -/
theorem spells_number (nonempty : numerals ≠ [])
    (areDigits : ∀ digit ∈ numerals, digit ∈ base.digits) :
    base.Spells numerals (base.number numerals) := by
  induction numerals using List.reverseRecOn with
  | nil => exact absurd rfl nonempty
  | append_singleton front last earlier =>
      rw [List.forall_mem_append, List.forall_mem_singleton] at areDigits
      by_cases alone : front = []
      · subst alone
        rw [number_concat]
        have zero : base.radix * base.number [] + digitOf last = digitOf last := Nat.zero_add _
        rw [zero]
        exact spells_digit areDigits.2
      · rw [number_concat]
        exact (earlier alone areDigits.1).concat areDigits.2

/-- The numerals are digits and add up to the number. -/
structure Denotes (base : Base) (numerals : List Char) (denoted : Nat) : Prop where
  areDigits : ∀ digit ∈ numerals, digit ∈ base.digits
  number_eq : base.number numerals = denoted

theorem Denotes.concat (denotes : base.Denotes front denoted) (within : count < base.radix)
    (small : last.toLower = Nat.digitChar count) :
    base.Denotes (front ++ [last]) (base.radix * denoted + count) := by
  rcases mem_digits_of_toLower within small with ⟨isDigit, counts⟩
  refine ⟨List.forall_mem_append.mpr
    ⟨denotes.areDigits, List.forall_mem_singleton.mpr isDigit⟩, ?_⟩
  rw [number_concat, denotes.number_eq, counts]

/-- What a row looks like in small letters says how its last digit goes on. -/
theorem Denotes.of_append {others : List Char}
    (front : ∀ row : List Char, row.map Char.toLower = others → base.Denotes row denoted)
    (within : count < base.radix)
    (small : numerals.map Char.toLower = others ++ [Nat.digitChar count]) :
    base.Denotes numerals (base.radix * denoted + count) := by
  rcases List.map_eq_append_iff.mp small with ⟨row, ending, rfl, rest, single⟩
  rcases List.map_eq_singleton_iff.mp single with ⟨last, rfl, same⟩
  exact (front row rest).concat within same

theorem denotes_zero {zeros : Nat} (small : numerals.map Char.toLower = List.replicate zeros '0') :
    base.Denotes numerals 0 := by
  induction zeros generalizing numerals with
  | zero =>
      rw [List.map_eq_nil_iff.mp small]
      exact ⟨nofun, rfl⟩
  | succ zeros earlier =>
      rw [List.replicate_succ'] at small
      have positive : 0 < base.radix := Nat.zero_lt_of_lt base.one_lt_radix
      exact Denotes.of_append (fun row => earlier) positive small

theorem Spells.denotes (spells : base.Spells numerals denoted) : base.Denotes numerals denoted := by
  induction denoted using Nat.strongRecOn generalizing numerals with
  | ind denoted smaller =>
      rcases spells with ⟨zeros, small⟩
      rw [Nat.toDigits_eq_if base.one_lt_radix] at small
      split at small
      · rename_i within
        have row := Denotes.of_append (fun row => denotes_zero) within small
        rwa [Nat.mul_zero, Nat.zero_add] at row
      · rename_i beyond
        have positive : 0 < base.radix := Nat.zero_lt_of_lt base.one_lt_radix
        have less : denoted / base.radix < denoted :=
          Nat.div_lt_self (Nat.lt_of_lt_of_le positive (Nat.le_of_not_lt beyond)) base.one_lt_radix
        rw [← List.append_assoc] at small
        have row := Denotes.of_append (fun row shown => smaller _ less ⟨zeros, shown⟩)
          (Nat.mod_lt denoted positive) small
        rwa [Nat.div_add_mod] at row

theorem Spells.nonempty (spells : base.Spells numerals denoted) : numerals ≠ [] := by
  rcases spells with ⟨zeros, small⟩
  intro empty
  rw [empty] at small
  exact Nat.toDigits_ne_nil (List.append_eq_nil_iff.mp small.symm).2

/-- Numerals spell a number when they are digits of the base, at least one, and add up to it. -/
theorem spells_iff :
    base.Spells numerals denoted ↔
      numerals ≠ [] ∧ (∀ digit ∈ numerals, digit ∈ base.digits) ∧
        base.number numerals = denoted := by
  constructor
  · intro spells
    exact ⟨spells.nonempty, spells.denotes.areDigits, spells.denotes.number_eq⟩
  · intro row
    rcases row with ⟨nonempty, areDigits, rfl⟩
    exact spells_number nonempty areDigits

example : Base.hexadecimal.Spells ['0', '0', 'f', 'F'] 255 := ⟨2, by decide⟩

end Base

/-! ## Reading numbers back -/

/-- The parser for the numbers of a base reads a mark and any spelling of a number back to that
number, wherever no digit of the base follows: behind any number of zeros, with letters in either
case, and in front of any text.  Whatever it takes off a text is such a spelling of the number
that it yields. -/
theorem numbers_read_back {ν : Type} (base : Base) (verbosity : Verbosity)
    (rules : ν → Parser Value) (rounds : Nat) (characters : List Char) (value : Value)
    (rest : Stream) :
    ((base.grammar : Grammar ν).parser verbosity rules rounds).Succeeds (.text characters) value
        rest ↔
      ∃ (denoted : Nat) (mark numerals after : List Char),
        mark ∈ base.marks ∧ base.Spells numerals denoted ∧
        (∀ first, after.head? = some first → first ∉ base.digits) ∧
        characters = mark ++ numerals ++ after ∧ value = .int denoted ∧ rest = .text after := by
  refine (readsNumbers_base base).succeeds_iff.trans ?_
  constructor
  · intro success
    rcases success with ⟨mark, numerals, after, writes, ends, split, read, left⟩
    exact ⟨base.number numerals, mark, numerals, after, writes.isMark,
      Base.spells_number writes.nonempty writes.areDigits, ends, split, read, left⟩
  · intro written
    rcases written with ⟨denoted, mark, numerals, after, isMark, spells, ends, split, read, left⟩
    rcases Base.spells_iff.mp spells with ⟨nonempty, areDigits, rfl⟩
    exact ⟨mark, numerals, after, ⟨isMark, nonempty, areDigits⟩, ends, split, read, left⟩

end Scanner

end OrderedChoice
