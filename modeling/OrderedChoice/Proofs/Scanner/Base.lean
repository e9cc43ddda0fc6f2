import Mathlib.Data.List.Basic
import Mathlib.Data.List.TakeWhile
import Mathlib.Data.Nat.Digits.Lemmas
import OrderedChoice.Decimal.Reading

/-!
# Written numbers

A number is written in one of four bases: digits of the base behind the mark that names it, and
decimals without any mark.  A text is such a number in one way at most.  Two numbers of
different bases that stand at the front of the same text are a marked one and its leading zero,
so the marked one is the longer of the two.
-/

namespace OrderedChoice

namespace Scanner

/-- The bases in which numbers are written. -/
inductive Base where
  | hexadecimal | octal | binary | decimal
  deriving DecidableEq

namespace Base

variable {base other : Base} {mark otherMark numerals otherNumerals characters after : List Char}

/-- The number of digits that the base has. -/
def radix : Base → Nat
  | .hexadecimal => 16
  | .octal => 8
  | .binary => 2
  | .decimal => 10

/-- The letters that name the base behind a zero.  Decimals have no name. -/
def letters : Base → List Char
  | .hexadecimal => ['x', 'X']
  | .octal => ['o']
  | .binary => ['b']
  | .decimal => []

/-- What may stand in front of the digits. -/
def marks : Base → List (List Char)
  | .decimal => [[]]
  | base => base.letters.map fun letter => ['0', letter]

/-- The digits of the base. -/
def digits : Base → List Char
  | .hexadecimal => ['0', '1', '2', '3', '4', '5', '6', '7', '8', '9',
      'a', 'b', 'c', 'd', 'e', 'f', 'A', 'B', 'C', 'D', 'E', 'F']
  | .octal => ['0', '1', '2', '3', '4', '5', '6', '7']
  | .binary => ['0', '1']
  | .decimal => ['0', '1', '2', '3', '4', '5', '6', '7', '8', '9']

/-- What a digit counts, in either case of its letters. -/
def digitOf (digit : Char) : Nat :=
  ['0', '1', '2', '3', '4', '5', '6', '7', '8', '9', 'a', 'b', 'c', 'd', 'e', 'f'].idxOf
    digit.toLower

/-- The number that digits denote, each of them multiplied by the power of the base that belongs
to its place. -/
def number (base : Base) (numerals : List Char) : Nat :=
  ((numerals.map digitOf).reverse.mapIdx fun place count => count * base.radix ^ place).sum

/-- Digits of the base stand behind a mark of the base. -/
structure Writes (base : Base) (mark numerals : List Char) : Prop where
  isMark : mark ∈ base.marks
  nonempty : numerals ≠ []
  areDigits : ∀ digit ∈ numerals, digit ∈ base.digits

/-- The text begins with a number that is written in the base. -/
def Starts (base : Base) (characters : List Char) : Prop :=
  ∃ mark numerals, base.Writes mark numerals ∧ mark ++ numerals <+: characters

/-! ## Marks -/

theorem mem_marks_iff :
    mark ∈ base.marks ↔
      base = .decimal ∧ mark = [] ∨ ∃ letter ∈ base.letters, mark = ['0', letter] := by
  cases base <;> simp [marks, letters]

/-- A letter names one base. -/
theorem eq_of_mem_letters {letter : Char} (member : letter ∈ base.letters)
    (otherMember : letter ∈ other.letters) : base = other := by
  cases base <;> cases other <;> simp_all [letters]

theorem letter_not_mem_digits {letter : Char} (member : letter ∈ base.letters) :
    letter ∉ Base.decimal.digits := by
  cases base <;> simp only [letters, List.mem_cons, List.not_mem_nil, or_false] at member
  · rcases member with rfl | rfl <;> decide
  · subst member
    decide
  · subst member
    decide

theorem zero_mem_digits (base : Base) : '0' ∈ base.digits := by
  cases base <;> decide

/-- The marks of a base are equally long. -/
theorem length_eq_of_mem_marks (member : mark ∈ base.marks) (otherMember : otherMark ∈ base.marks) :
    mark.length = otherMark.length := by
  rcases mem_marks_iff.mp member with ⟨decimal, rfl⟩ | ⟨letter, named, rfl⟩
  · subst decimal
    rw [List.mem_singleton.mp otherMember]
  · rcases mem_marks_iff.mp otherMember with ⟨decimal, rfl⟩ | ⟨otherLetter, _, rfl⟩
    · subst decimal
      cases named
    · rfl

/-! ## Numbers at the front of a text -/

/-- A number begins with a decimal digit in every base. -/
theorem Writes.exists_cons (writes : base.Writes mark numerals) :
    ∃ first others, mark ++ numerals = first :: others ∧ first ∈ Base.decimal.digits := by
  rcases mem_marks_iff.mp writes.isMark with ⟨decimal, unmarked⟩ | ⟨letter, _, marked⟩
  · subst decimal unmarked
    rcases List.exists_cons_of_ne_nil writes.nonempty with ⟨first, others, same⟩
    subst same
    exact ⟨first, others, rfl, writes.areDigits first List.mem_cons_self⟩
  · exact ⟨'0', letter :: numerals, by rw [marked]; rfl, zero_mem_digits .decimal⟩

/-- Digits at the front of a text are no more than the text has there. -/
theorem length_le_of_prefix_append {digits more : List Char} {condition : Char → Prop}
    (areDigits : ∀ digit ∈ more, condition digit) (starts : more <+: digits ++ after)
    (ends : ∀ first, after.head? = some first → ¬ condition first) :
    more.length ≤ digits.length := by
  by_contra longer
  have position : digits.length < more.length := Nat.lt_of_not_le longer
  have behind : (digits ++ after)[digits.length]? = after.head? := by
    rw [List.getElem?_append_right (Nat.le_refl _), Nat.sub_self, List.head?_eq_getElem?]
  have found : after.head? = some more[digits.length] := by
    rw [← behind]
    exact List.prefix_iff_getElem?.mp starts _ position
  exact ends _ found (areDigits _ (List.getElem_mem position))

/-- Where digits end, no longer number of the same base stands at the front. -/
theorem Writes.length_le_of_same (writes : base.Writes mark numerals)
    (otherWrites : base.Writes otherMark otherNumerals)
    (starts : otherMark ++ otherNumerals <+: mark ++ numerals ++ after)
    (ends : ∀ first, after.head? = some first → first ∉ base.digits) :
    (otherMark ++ otherNumerals).length ≤ (mark ++ numerals).length := by
  have sameLength : otherMark.length = mark.length :=
    length_eq_of_mem_marks otherWrites.isMark writes.isMark
  rcases starts with ⟨left, split⟩
  rw [List.append_assoc, List.append_assoc] at split
  rcases List.append_inj split sameLength with ⟨_, digitsSplit⟩
  have shorter : otherNumerals.length ≤ numerals.length :=
    length_le_of_prefix_append otherWrites.areDigits ⟨left, digitsSplit⟩ ends
  rw [List.length_append, List.length_append, sameLength]
  exact Nat.add_le_add_left shorter _

/-- At the front of a marked number stands no number of another base but the zero of its mark. -/
theorem Writes.length_eq_one_of_other (marked : base ≠ .decimal)
    (writes : base.Writes mark numerals) (starts : mark ++ numerals <+: characters)
    (different : other ≠ base) (otherWrites : other.Writes otherMark otherNumerals)
    (otherStarts : otherMark ++ otherNumerals <+: characters) :
    (otherMark ++ otherNumerals).length = 1 := by
  rcases mem_marks_iff.mp writes.isMark with ⟨decimal, _⟩ | ⟨letter, named, isMark⟩
  · exact absurd decimal marked
  rcases starts with ⟨left, split⟩
  rw [isMark] at split
  subst split
  rcases mem_marks_iff.mp otherWrites.isMark with ⟨decimal, unmarked⟩ | ⟨otherLetter, otherNamed, same⟩
  · subst decimal unmarked
    rw [List.nil_append] at otherStarts ⊢
    -- the second digit would be the letter of the mark
    cases digits : otherNumerals with
    | nil => exact absurd digits otherWrites.nonempty
    | cons first others =>
        cases others with
        | nil => rfl
        | cons second others =>
            subst digits
            have isLetter : second = letter :=
              (List.cons_prefix_cons.mp (List.cons_prefix_cons.mp otherStarts).2).1
            have isDigit := otherWrites.areDigits second (by simp)
            rw [isLetter] at isDigit
            exact absurd isDigit (letter_not_mem_digits named)
  · rw [same] at otherStarts
    have sameLetter : otherLetter = letter :=
      (List.cons_prefix_cons.mp (List.cons_prefix_cons.mp otherStarts).2).1
    rw [sameLetter] at otherNamed
    exact absurd (eq_of_mem_letters otherNamed named) different

/-- A number at the front of a text can be extended until its digits end. -/
theorem Starts.exists_writes (starts : base.Starts characters) :
    ∃ mark numerals after, base.Writes mark numerals ∧
      (∀ first, after.head? = some first → first ∉ base.digits) ∧
      characters = mark ++ numerals ++ after := by
  rcases starts with ⟨mark, numerals, writes, left, rfl⟩
  have more : ∀ digit ∈ left.takeWhile (· ∈ base.digits), digit ∈ base.digits :=
    fun digit member => by simpa using List.mem_takeWhile_imp member
  have areDigits : ∀ digit ∈ numerals ++ left.takeWhile (· ∈ base.digits), digit ∈ base.digits :=
    List.forall_mem_append.mpr ⟨writes.areDigits, more⟩
  have ends : ∀ first, (left.dropWhile (· ∈ base.digits)).head? = some first →
      first ∉ base.digits := by
    intro first head
    have stopped := List.head?_dropWhile_not (fun digit => decide (digit ∈ base.digits)) left
    rw [head] at stopped
    simpa using stopped
  refine ⟨mark, numerals ++ left.takeWhile (· ∈ base.digits), left.dropWhile (· ∈ base.digits),
    ⟨writes.isMark, List.append_ne_nil_of_left_ne_nil writes.nonempty _, areDigits⟩, ends, ?_⟩
  simp only [List.append_assoc, List.takeWhile_append_dropWhile]

theorem Starts.exists_digit (starts : base.Starts characters) :
    ∃ first, characters.head? = some first ∧ first ∈ Base.decimal.digits := by
  rcases starts with ⟨mark, numerals, writes, left, rfl⟩
  rcases writes.exists_cons with ⟨first, others, same, isDigit⟩
  exact ⟨first, by rw [same]; rfl, isDigit⟩

/-- A mark without a digit of its base behind it begins no marked number. -/
theorem not_starts_of_mem_letters {letter : Char} (named : letter ∈ base.letters)
    (ends : ∀ first, after.head? = some first → first ∉ base.digits) (marked : other ≠ .decimal) :
    ¬ other.Starts ('0' :: letter :: after) := by
  intro starts
  rcases starts with ⟨mark, numerals, writes, starts⟩
  rcases mem_marks_iff.mp writes.isMark with ⟨decimal, _⟩ | ⟨otherLetter, otherNamed, rfl⟩
  · exact absurd decimal marked
  rcases List.cons_prefix_cons.mp (List.cons_prefix_cons.mp starts).2 with ⟨same, behind⟩
  subst same
  rw [eq_of_mem_letters otherNamed named] at writes
  rcases List.exists_cons_of_ne_nil writes.nonempty with ⟨first, others, isCons⟩
  rcases behind with ⟨left, rfl⟩
  exact ends first (by rw [isCons]; rfl) (writes.areDigits first (isCons ▸ List.mem_cons_self))

/-! ## The longest number -/

/-- The text is a number that is written in some base. -/
def IsWritten (text : List Char) : Prop :=
  ∃ base mark numerals, Writes base mark numerals ∧ text = mark ++ numerals

/-- No number at the front of the characters is longer. -/
def IsLongest (text characters : List Char) : Prop :=
  ∀ longer, IsWritten longer → longer <+: characters → longer.length ≤ text.length

/-- A number that takes all its digits is the longest one, when no marked number stands in the
place of a decimal one. -/
theorem Writes.isLongest (writes : base.Writes mark numerals)
    (ends : ∀ first, after.head? = some first → first ∉ base.digits)
    (unmarked : base = .decimal → ∀ other : Base, other ≠ .decimal →
      ¬ other.Starts (mark ++ numerals ++ after)) :
    IsLongest (mark ++ numerals) (mark ++ numerals ++ after) := by
  intro longer isWritten starts
  rcases isWritten with ⟨other, otherMark, otherNumerals, otherWrites, rfl⟩
  by_cases same : other = base
  · subst same
    exact writes.length_le_of_same otherWrites starts ends
  by_cases decimal : base = .decimal
  · have marked : other ≠ .decimal := fun otherDecimal => same (otherDecimal.trans decimal.symm)
    exact absurd ⟨otherMark, otherNumerals, otherWrites, starts⟩ (unmarked decimal other marked)
  · rw [writes.length_eq_one_of_other decimal (List.prefix_append _ _) same otherWrites starts]
    rcases writes.exists_cons with ⟨first, others, split, _⟩
    rw [split, List.length_cons]
    exact Nat.le_add_left 1 _

/-- The longest number is one text. -/
theorem eq_of_isLongest {text other : List Char} (isWritten : IsWritten text)
    (otherIsWritten : IsWritten other) (starts : text <+: characters)
    (otherStarts : other <+: characters) (isLongest : IsLongest text characters)
    (otherIsLongest : IsLongest other characters) : text = other := by
  have noLonger := otherIsLongest text isWritten starts
  have noShorter := isLongest other otherIsWritten otherStarts
  exact (List.prefix_of_prefix_length_le starts otherStarts noLonger).eq_of_length_le noShorter

theorem Writes.one_lt_length_of_marked (marked : base ≠ .decimal)
    (writes : base.Writes mark numerals) : 1 < (mark ++ numerals).length := by
  rcases mem_marks_iff.mp writes.isMark with ⟨decimal, _⟩ | ⟨letter, _, isMark⟩
  · exact absurd decimal marked
  · rw [isMark, List.length_append]
    exact Nat.lt_of_lt_of_le Nat.one_lt_two (Nat.le_add_right 2 _)

/-- A text is a number in one way at most. -/
theorem Writes.unique (writes : base.Writes mark numerals)
    (otherWrites : other.Writes otherMark otherNumerals)
    (same : mark ++ numerals = otherMark ++ otherNumerals) :
    base = other ∧ numerals = otherNumerals := by
  by_cases sameBase : base = other
  · subst sameBase
    have sameLength := length_eq_of_mem_marks writes.isMark otherWrites.isMark
    exact ⟨rfl, (List.append_inj same sameLength).2⟩
  · by_cases marked : base = .decimal
    · have otherMarked : other ≠ .decimal := fun decimal => sameBase (marked.trans decimal.symm)
      have one := otherWrites.length_eq_one_of_other otherMarked (List.prefix_refl _) sameBase
        writes (same ▸ List.prefix_refl _)
      have more := otherWrites.one_lt_length_of_marked otherMarked
      rw [← same, one] at more
      exact absurd more (Nat.lt_irrefl 1)
    · have one := writes.length_eq_one_of_other marked (List.prefix_refl _)
        (fun equal => sameBase equal.symm) otherWrites (same ▸ List.prefix_refl _)
      have more := writes.one_lt_length_of_marked marked
      rw [same, one] at more
      exact absurd more (Nat.lt_irrefl 1)

/-- The characters begin with their longest number, which is the denoted one, and go on with what
is after it. -/
def BeginsWithLongest (characters : List Char) (denoted : Nat) (after : List Char) : Prop :=
  ∃ base mark numerals, Writes base mark numerals ∧ characters = mark ++ numerals ++ after ∧
    IsLongest (mark ++ numerals) characters ∧ denoted = base.number numerals

theorem BeginsWithLongest.exists_starts {denoted : Nat}
    (begins : BeginsWithLongest characters denoted after) : ∃ base : Base, base.Starts characters := by
  rcases begins with ⟨base, mark, numerals, writes, rfl, _⟩
  exact ⟨base, mark, numerals, writes, List.prefix_append _ _⟩

/-- The longest number and what is behind it are determined by the text. -/
theorem BeginsWithLongest.unique {denoted otherDenoted : Nat} {otherAfter : List Char}
    (begins : BeginsWithLongest characters denoted after)
    (otherBegins : BeginsWithLongest characters otherDenoted otherAfter) :
    denoted = otherDenoted ∧ after = otherAfter := by
  rcases begins with ⟨base, mark, numerals, writes, split, isLongest, rfl⟩
  rcases otherBegins with
    ⟨other, otherMark, otherNumerals, otherWrites, otherSplit, otherIsLongest, rfl⟩
  have same : mark ++ numerals = otherMark ++ otherNumerals :=
    eq_of_isLongest ⟨base, mark, numerals, writes, rfl⟩
      ⟨other, otherMark, otherNumerals, otherWrites, rfl⟩ ⟨after, split.symm⟩
      ⟨otherAfter, otherSplit.symm⟩ isLongest otherIsLongest
  rcases writes.unique otherWrites same with ⟨rfl, rfl⟩
  rw [split, ← same] at otherSplit
  exact ⟨rfl, List.append_cancel_left otherSplit⟩

/-! ## The value of digits -/

/-- Reading digits one after the other adds up the values of their places. -/
theorem ofDigits_eq_number (base : Base) (numerals : List Char) :
    Decimal.ofDigits base.radix (numerals.map fun digit => (digitOf digit : Int)) =
      base.number numerals := by
  have read : ∀ start : Nat,
      numerals.foldl (fun number digit => number * (base.radix : Int) + digitOf digit) start =
        (numerals.foldl (fun number digit => digitOf digit + base.radix * number) start : Nat) := by
    induction numerals with
    | nil => exact fun _ => rfl
    | cons first others later =>
        intro start
        rw [List.foldl_cons, List.foldl_cons, ← later]
        congr 1
        push_cast
        ring
  have added : base.number numerals =
      numerals.foldl (fun number digit => digitOf digit + base.radix * number) 0 := by
    rw [number, ← Nat.ofDigits_eq_sum_mapIdx, Nat.ofDigits_eq_foldr, List.foldr_reverse,
      List.foldl_map]
    rfl
  rw [Decimal.ofDigits, List.foldl_map, added]
  exact read 0

end Base

end Scanner

end OrderedChoice
