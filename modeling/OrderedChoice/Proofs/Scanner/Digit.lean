import OrderedChoice.Proofs.Scanner.Base
import OrderedChoice.Proofs.Scanner.Text

/-!
# What the parsers for digits read

The digits of a base are found by what they count: a character is read as a digit of a larger
base and rejected when it counts too much.  That leaves exactly the digits of the base, and no
character outside ASCII is ever among them.
-/

namespace OrderedChoice

namespace Scanner

namespace ReadsDigits

variable {parser : Parser Value} {isDigit : Char → Bool} {count : Char → Int}

/-- A range keeps the digits that count neither too little nor too much. -/
theorem filter (reads : ReadsDigits parser isDigit count) (low high : Int) (expected : String) :
    ReadsDigits (parser.filter (checkRange low high expected))
      (fun character => isDigit character &&
        decide (low ≤ count character ∧ count character ≤ high)) count := by
  constructor
  · intro characters value rest
    rw [Parser.succeeds_filter_iff, reads.succeeds_iff]
    constructor
    · intro success
      rcases success with ⟨⟨first, after, split, digit, rfl, left⟩, checked⟩
      by_cases within : low ≤ count first ∧ count first ≤ high
      · exact ⟨first, after, split, by rw [digit, decide_eq_true within]; rfl, rfl, left⟩
      · rw [checkRange, if_neg within] at checked
        cases checked
    · intro success
      rcases success with ⟨first, after, split, digit, rfl, left⟩
      rw [Bool.and_eq_true, decide_eq_true_eq] at digit
      exact ⟨⟨first, after, split, digit.1, rfl, left⟩, if_pos digit.2⟩
  · intro characters other
    by_cases none : ∀ first, characters.head? = some first → isDigit first = false
    · rcases reads.fails none with ⟨error, failed⟩
      exact ⟨error, Parser.fails_filter_iff.mpr (Or.inl failed)⟩
    · -- a digit stands there that is out of range
      rcases not_forall.mp none with ⟨first, digit⟩
      rw [Classical.not_imp, Bool.not_eq_false] at digit
      have outside := other first digit.1
      rw [digit.2, Bool.true_and, decide_eq_false_iff_not] at outside
      rcases List.head?_eq_some_iff.mp digit.1 with ⟨after, rfl⟩
      have success := reads.succeeds_iff.mpr ⟨first, after, rfl, digit.2, rfl, rfl⟩
      exact ⟨_, Parser.fails_filter_iff.mpr (Or.inr ⟨_, _, _, success, if_neg outside, rfl⟩)⟩

/-- Only the digits matter, and only what they count. -/
theorem congr {otherIsDigit : Char → Bool} {otherCount : Char → Int}
    (reads : ReadsDigits parser isDigit count)
    (same : ∀ character, isDigit character = otherIsDigit character)
    (sameCount : ∀ character, otherIsDigit character = true →
      count character = otherCount character) :
    ReadsDigits parser otherIsDigit otherCount := by
  have equal : isDigit = otherIsDigit := funext same
  subst equal
  constructor
  · intro characters value rest
    rw [reads.succeeds_iff]
    constructor
    · intro success
      rcases success with ⟨first, after, split, digit, rfl, left⟩
      exact ⟨first, after, split, digit, by rw [sameCount first digit], left⟩
    · intro success
      rcases success with ⟨first, after, split, digit, rfl, left⟩
      exact ⟨first, after, split, digit, by rw [sameCount first digit], left⟩
  · exact reads.fails

end ReadsDigits

/-! ## The digits of each base -/

section Digits

variable {ν : Type} {verbosity : Verbosity} {rules : ν → Parser Value} {rounds : Nat}

/-! ### Characters of ASCII -/

theorem mem_ascii {character : Char} (isAscii : character.toNat < 128) :
    character ∈ (List.range 128).map Char.ofNat :=
  List.mem_map.mpr ⟨character.toNat, List.mem_range.mpr isAscii, Char.ofNat_toNat character⟩

theorem toNat_lt_of_isAlphanum {character : Char} (alphanumeric : character.isAlphanum = true) :
    character.toNat < 128 := by
  have bounded : ∀ {high : Char}, high.toNat < 128 → character.val ≤ high.val →
      character.toNat < 128 :=
    fun ascii below => Nat.lt_of_le_of_lt (UInt32.le_iff_toNat_le.mp below) ascii
  rcases Bool.or_eq_true_iff.mp alphanumeric with letter | digit
  · rcases Bool.or_eq_true_iff.mp letter with capital | small
    · exact bounded (by decide : 'Z'.toNat < 128) (of_decide_eq_true capital).2
    · exact bounded (by decide : 'z'.toNat < 128)
        (of_decide_eq_true (Bool.and_eq_true_iff.mp small).2)
  · exact bounded (by decide : '9'.toNat < 128)
      (of_decide_eq_true (Bool.and_eq_true_iff.mp digit).2)

theorem toNat_lt_of_isDigit {character : Char} (digit : character.isDigit = true) :
    character.toNat < 128 := by
  have alphanumeric : character.isAlphanum = true := by
    rw [Char.isAlphanum, digit, Bool.or_true]
  exact toNat_lt_of_isAlphanum alphanumeric

theorem Base.toNat_lt_of_mem_digits {base : Base} {character : Char}
    (member : character ∈ base.digits) : character.toNat < 128 := by
  have all : base.digits.all (fun digit => decide (digit.toNat < 128)) = true := by
    cases base <;> decide
  exact of_decide_eq_true (List.all_eq_true.mp all character member)

/-- Digits that are characters of ASCII are the digits of a base, if they are so on ASCII. -/
theorem ReadsDigits.ofAscii {parser : Parser Value} {isDigit : Char → Bool} {count : Char → Int}
    (reads : ReadsDigits parser isDigit count) (base : Base)
    (onlyAscii : ∀ character, isDigit character = true → character.toNat < 128)
    (same : ((List.range 128).map Char.ofNat).all
      (fun character => isDigit character == decide (character ∈ base.digits)) = true)
    (sameCount : base.digits.all (fun digit => count digit == Base.digitOf digit) = true) :
    ReadsDigits parser (fun character => decide (character ∈ base.digits))
      (fun character => (Base.digitOf character : Int)) := by
  refine reads.congr ?_ ?_
  · intro character
    by_cases isAscii : character.toNat < 128
    · exact eq_of_beq (List.all_eq_true.mp same character (mem_ascii isAscii))
    · -- neither takes a character outside ASCII
      have notRead : isDigit character = false :=
        Bool.eq_false_iff.mpr fun digit => isAscii (onlyAscii character digit)
      have notMember : character ∉ base.digits :=
        fun member => isAscii (Base.toNat_lt_of_mem_digits member)
      rw [notRead, decide_eq_false notMember]
  · intro character member
    exact eq_of_beq (List.all_eq_true.mp sameCount character (of_decide_eq_true member))

/-! ### Letters and digits -/

/-- What a character counts in base thirty-six.  Only letters and digits of ASCII count at all. -/
def alphanumericCount (character : Char) : Int :=
  if character.isAlphanum then Decimal.digitValue character else -1

theorem readsDigits_alphanumeric :
    ReadsDigits ((anyCharacter.map alphanumericValue : Grammar ν).parser verbosity rules rounds)
      (fun _ => true) alphanumericCount := by
  constructor
  · intro characters value rest
    refine Parser.succeeds_mapM_iff.trans ?_
    constructor
    · intro success
      rcases success with ⟨element, read, changed⟩
      rcases succeeds_anyCharacter_iff.mp read with ⟨first, after, rfl, rfl, rfl⟩
      rw [alphanumericValue_ofChar] at changed
      cases changed
      exact ⟨first, after, rfl, rfl, rfl, rfl⟩
    · intro success
      rcases success with ⟨first, after, rfl, _, rfl, rfl⟩
      exact ⟨Value.ofChar first, succeeds_anyCharacter_iff.mpr ⟨first, after, rfl, rfl, rfl⟩,
        alphanumericValue_ofChar first⟩
  · intro characters other
    cases characters with
    | nil =>
        exact ⟨_, Parser.fails_mapM_iff.mpr (fails_anyCharacter_iff.mpr ⟨rfl, rfl⟩)⟩
    | cons first after => cases other first rfl

theorem isAlphanum_of_alphanumericCount_nonneg {character : Char}
    (counts : 0 ≤ alphanumericCount character) : character.isAlphanum = true := by
  by_contra other
  rw [alphanumericCount, if_neg other] at counts
  exact absurd counts (by decide)

/-! ### The parsers -/

/-- The parser for one digit of the base. -/
def Base.digit : Base → Grammar ν
  | .hexadecimal => hexadecimalDigit
  | .octal => octalDigit
  | .binary => binaryDigit
  | .decimal => Scanner.digit

/-- The parser for digits of a base reads them and nothing else. -/
theorem readsDigits_base (base : Base) :
    ReadsDigits ((base.digit : Grammar ν).parser verbosity rules rounds)
      (fun character => decide (character ∈ base.digits))
      (fun character => (Base.digitOf character : Int)) := by
  cases base with
  | hexadecimal =>
      refine (readsDigits_alphanumeric.filter 0 15 "0 to 15").ofAscii .hexadecimal ?_
        (by decide +kernel) (by decide +kernel)
      intro character digit
      have within := of_decide_eq_true (Bool.and_eq_true_iff.mp digit).2
      exact toNat_lt_of_isAlphanum (isAlphanum_of_alphanumericCount_nonneg within.1)
  | octal =>
      refine (readsDigits_digit.filter 0 7 "0 to 7").ofAscii .octal ?_
        (by decide +kernel) (by decide +kernel)
      intro character digit
      exact toNat_lt_of_isDigit (Bool.and_eq_true_iff.mp digit).1
  | binary =>
      refine (readsDigits_digit.filter 0 1 "0 or 1").ofAscii .binary ?_
        (by decide +kernel) (by decide +kernel)
      intro character digit
      exact toNat_lt_of_isDigit (Bool.and_eq_true_iff.mp digit).1
  | decimal =>
      exact readsDigits_digit.ofAscii .decimal (fun _ => toNat_lt_of_isDigit)
        (by decide +kernel) (by decide +kernel)

end Digits

end Scanner

end OrderedChoice
