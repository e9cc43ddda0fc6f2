import OrderedChoice.Proofs.Scanner.Decimal
import OrderedChoice.Proofs.Scanner.Piece

/-!
# What the parsers for numerals read

A numeral is a run of digits, as long as possible, and its parser applies the parser for one
digit over and over.  All of this depends on nothing but what a single digit is and what it
counts, so it is stated for any parser that reads digits.
-/

namespace OrderedChoice

namespace Scanner

/-- On text the parser takes one digit and yields what it counts. -/
structure ReadsDigits (parser : Parser Value) (isDigit : Char → Bool) (count : Char → Int) :
    Prop where
  succeeds_iff : ∀ {characters value rest}, parser.Succeeds (.text characters) value rest ↔
    ∃ first after, characters = first :: after ∧ isDigit first = true ∧
      value = .int (count first) ∧ rest = .text after
  fails : ∀ {characters}, (∀ first, characters.head? = some first → isDigit first = false) →
    ∃ error, parser.Fails (.text characters) error

/-- The values of the digits in a text. -/
def digitValues (count : Char → Int) (digits : List Char) : List Value :=
  digits.map fun digit => .int (count digit)

theorem integers?_digitValues (count : Char → Int) (digits : List Char) :
    integers? (digitValues count digits) = some (digits.map count) := by
  induction digits with
  | nil => rfl
  | cons first others later =>
      change (integers? (digitValues count others)).map (count first :: ·) = _
      rw [later]
      rfl

theorem numeral_digitValues (base : Int) (count : Char → Int) (digits : List Char) :
    numeral base (.list (digitValues count digits)) =
      .ok (.int (Decimal.ofDigits base (digits.map count))) := by
  simp only [numeral, integers?_digitValues]
  rfl

namespace ReadsDigits

variable {ν : Type} {verbosity : Verbosity} {rules : ν → Parser Value} {rounds : Nat}
  {parser : Parser Value} {isDigit : Char → Bool} {count : Char → Int} {characters : List Char}
  {value : Value} {rest : Stream}

/-- A digit is a piece of one character. -/
theorem readsPieces (reads : ReadsDigits parser isDigit count) :
    ReadsPieces parser (IsSingle fun character => isDigit character = true)
      (fun piece => .int (piece.head?.elim 0 count)) where
  nonempty := IsSingle.nonempty
  succeeds_iff := by
    intro characters value rest
    refine reads.succeeds_iff.trans ?_
    constructor
    · intro success
      rcases success with ⟨first, after, rfl, digit, rfl, left⟩
      exact ⟨[first], after, ⟨first, digit, rfl⟩, rfl, rfl, left⟩
    · intro success
      rcases success with ⟨_, after, ⟨first, digit, rfl⟩, rfl, rfl, left⟩
      exact ⟨first, after, rfl, digit, rfl, left⟩
  fails := by
    intro characters none
    refine reads.fails ?_
    intro first head
    exact eq_false_of_ne_true (not_isSingle_prefix_iff.mp none first head)

theorem answers (reads : ReadsDigits parser isDigit count) (characters : List Char) :
    parser.Answers (.text characters) :=
  reads.readsPieces.answers characters

/-- The parser for digits fails nowhere but where there is none. -/
theorem fails_iff (reads : ReadsDigits parser isDigit count) :
    (∃ error, parser.Fails (.text characters) error) ↔
      ∀ first, characters.head? = some first → isDigit first = false := by
  refine reads.readsPieces.fails_iff.trans (not_isSingle_prefix_iff.trans ?_)
  simp only [Bool.not_eq_true]

theorem map_singles (digits : List Char) :
    (singles digits).map (fun piece => Value.int (piece.head?.elim 0 count)) =
      digitValues count digits :=
  List.map_map

section Numerals

variable {digit : Grammar ν} {base : Int}

/-- A repetition of the parser takes all the digits there are. -/
theorem succeeds_atLeastOnce_iff
    (reads : ReadsDigits (digit.parser verbosity rules rounds) isDigit count) :
    (digit.atLeastOnce.parser verbosity rules rounds).Succeeds (.text characters) value rest ↔
      ∃ digits after, digits ≠ [] ∧ (∀ digit ∈ digits, isDigit digit = true) ∧
        (∀ first, after.head? = some first → isDigit first = false) ∧
        characters = digits ++ after ∧ value = .list (digitValues count digits) ∧
        rest = .text after := by
  refine reads.readsPieces.succeeds_atLeastOnce_isSingle_iff.trans ?_
  simp only [Bool.not_eq_true, map_singles]

theorem answers_atLeastOnce
    (reads : ReadsDigits (digit.parser verbosity rules rounds) isDigit count)
    (characters : List Char) :
    (digit.atLeastOnce.parser verbosity rules rounds).Answers (.text characters) :=
  reads.readsPieces.answers_atLeastOnce characters

/-- The parser for numerals takes all the digits there are. -/
theorem succeeds_numeral_iff
    (reads : ReadsDigits (digit.parser verbosity rules rounds) isDigit count) :
    ((digit.atLeastOnce.map (numeral base)).parser verbosity rules rounds).Succeeds
        (.text characters) value rest ↔
      ∃ digits after, digits ≠ [] ∧ (∀ digit ∈ digits, isDigit digit = true) ∧
        (∀ first, after.head? = some first → isDigit first = false) ∧
        characters = digits ++ after ∧
        value = .int (Decimal.ofDigits base (digits.map count)) ∧ rest = .text after := by
  refine Parser.succeeds_mapM_iff.trans ?_
  constructor
  · intro success
    rcases success with ⟨_, repeated, changed⟩
    rcases reads.succeeds_atLeastOnce_iff.mp repeated with
      ⟨digits, after, some, areDigits, ends, split, rfl, left⟩
    rw [numeral_digitValues] at changed
    cases changed
    exact ⟨digits, after, some, areDigits, ends, split, rfl, left⟩
  · intro success
    rcases success with ⟨digits, after, some, areDigits, ends, split, rfl, left⟩
    have repeated := reads.succeeds_atLeastOnce_iff.mpr
      ⟨digits, after, some, areDigits, ends, split, rfl, left⟩
    exact ⟨_, repeated, numeral_digitValues base count digits⟩

/-- The parser for numerals fails where no digit is at the front. -/
theorem fails_numeral (reads : ReadsDigits (digit.parser verbosity rules rounds) isDigit count)
    (other : ∀ first, characters.head? = some first → isDigit first = false) :
    ∃ error, ((digit.atLeastOnce.map (numeral base)).parser verbosity rules rounds).Fails
      (.text characters) error :=
  (reads.fails other).imp fun _ failed =>
    Parser.fails_mapM_iff.mpr (Grammar.fails_atLeastOnce_iff.mpr (Or.inl failed))

theorem answers_numeral (reads : ReadsDigits (digit.parser verbosity rules rounds) isDigit count)
    (characters : List Char) :
    ((digit.atLeastOnce.map (numeral base)).parser verbosity rules rounds).Answers
      (.text characters) := by
  refine Run.isCompositional_returns.mapM (reads.answers_atLeastOnce characters) ?_
  intro value rest success
  rcases reads.succeeds_atLeastOnce_iff.mp success with ⟨digits, _, _, _, _, _, rfl, _⟩
  exact Run.returns_ofExcept ⟨_, numeral_digitValues base count digits⟩

end Numerals

end ReadsDigits

/-! ## Decimal numerals -/

section Decimals

variable {ν : Type} {verbosity : Verbosity} {rules : ν → Parser Value} {rounds : Nat}
  {characters : List Char} {value : Value} {rest : Stream}

theorem characters_ofChar (character : Char) :
    Scanner.characters (Value.ofChar character) = .ok [character] :=
  congrArg Except.ok (String.toList_singleton character)

/-- A single digit denotes the same number in every base. -/
theorem ofDigits_digitValue (base : Int) (character : Char) :
    Decimal.ofDigits base ([character].map Decimal.digitValue) = Decimal.digitValue character := by
  simp [Decimal.ofDigits]

theorem decimalValue_ofChar (character : Char) :
    decimalValue (Value.ofChar character) =
      .ok (if character.isDigit then some (.int (Decimal.digitValue character)) else none) := by
  unfold decimalValue
  rw [characters_ofChar]
  change (if [character].isEmpty || !([character].all Char.isDigit) then Except.ok none
    else Except.ok (some (Value.int (Decimal.ofDigits 10
      ([character].map Decimal.digitValue))))) = _
  rw [ofDigits_digitValue]
  cases digit : character.isDigit <;> simp [digit]

theorem readsDigits_digit :
    ReadsDigits ((digit : Grammar ν).parser verbosity rules rounds) Char.isDigit
      Decimal.digitValue := by
  constructor
  · intro characters value rest
    refine Parser.succeeds_token_iff.trans ?_
    constructor
    · intro success
      rcases success with ⟨element, head, selected, rfl⟩
      cases characters with
      | nil => cases head
      | cons first after =>
          cases head
          rw [decimalValue_ofChar, Except.ok.injEq] at selected
          split at selected
          · rename_i isDigit
            cases selected
            exact ⟨first, after, rfl, isDigit, rfl, rfl⟩
          · cases selected
    · intro success
      rcases success with ⟨first, after, rfl, isDigit, rfl, rfl⟩
      refine ⟨Value.ofChar first, rfl, ?_, rfl⟩
      rw [decimalValue_ofChar, if_pos isDigit]
  · intro characters other
    cases characters with
    | nil => exact ⟨_, Parser.fails_token_iff.mpr (Or.inl ⟨rfl, rfl⟩)⟩
    | cons first after =>
        refine ⟨_, Parser.fails_token_iff.mpr (Or.inr ⟨Value.ofChar first, rfl, ?_, rfl⟩)⟩
        rw [decimalValue_ofChar, other first rfl]
        rfl

/-- Reading digits into an integer is reading them into a natural number. -/
theorem ofDigits_eq_ofDigitChars {digits : List Char}
    (areDigits : ∀ digit ∈ digits, digit.isDigit = true) :
    Decimal.ofDigits 10 (digits.map Decimal.digitValue) = Nat.ofDigitChars 10 digits 0 := by
  suffices from_ : ∀ start : Nat,
      (digits.map Decimal.digitValue).foldl (fun number digit => number * 10 + digit) (start : Int) =
        Nat.ofDigitChars 10 digits start from from_ 0
  induction digits with
  | nil => exact fun _ => rfl
  | cons first others later =>
      intro start
      rw [List.forall_mem_cons] at areDigits
      have atLeast : '0'.toNat ≤ first.toNat := by
        have digit := areDigits.1
        simp only [Char.isDigit, Bool.and_eq_true, decide_eq_true_eq] at digit
        exact UInt32.le_iff_toNat_le.mp digit.1
      have step : (start : Int) * 10 + Decimal.digitValue first =
          (10 * start + (first.toNat - '0'.toNat) : Nat) := by
        rw [Decimal.digitValue, if_pos areDigits.1]
        omega
      rw [List.map_cons, List.foldl_cons, step, Nat.ofDigitChars_cons]
      exact later areDigits.2 _

theorem succeeds_decimalNumeral_iff :
    ((decimalNumeral : Grammar ν).parser verbosity rules rounds).Succeeds (.text characters) value
        rest ↔
      ∃ digits after, AreDigits digits ∧
        (∀ first, after.head? = some first → first.isDigit = false) ∧
        characters = digits ++ after ∧ value = .int (Nat.ofDigitChars 10 digits 0) ∧
        rest = .text after := by
  refine readsDigits_digit.succeeds_numeral_iff.trans ?_
  constructor
  · intro success
    rcases success with ⟨digits, after, some, areDigits, ends, split, rfl, left⟩
    rw [ofDigits_eq_ofDigitChars areDigits]
    exact ⟨digits, after, ⟨some, areDigits⟩, ends, split, rfl, left⟩
  · intro success
    rcases success with ⟨digits, after, ⟨some, areDigits⟩, ends, split, rfl, left⟩
    rw [← ofDigits_eq_ofDigitChars areDigits]
    exact ⟨digits, after, some, areDigits, ends, split, rfl, left⟩

theorem fails_decimalNumeral
    (other : ∀ first, characters.head? = some first → first.isDigit = false) :
    ∃ error, ((decimalNumeral : Grammar ν).parser verbosity rules rounds).Fails (.text characters)
      error :=
  readsDigits_digit.fails_numeral other

theorem answers_decimalNumeral (characters : List Char) :
    ((decimalNumeral : Grammar ν).parser verbosity rules rounds).Answers (.text characters) :=
  readsDigits_digit.answers_numeral characters

end Decimals

end Scanner

end OrderedChoice
