import OrderedChoice.Proofs.Parser.Region
import OrderedChoice.Proofs.Scanner.Character
import OrderedChoice.Proofs.Scanner.Decimal
import OrderedChoice.Proofs.Scanner.Numeral

/-!
# What scanners yield on text

The elements of a text are characters, and what the scanners put together from them are
characters, numbers and rows of both.  Functions that are made for these are never given
anything else.
-/

namespace OrderedChoice

namespace Stream

/-- The stream is a text. -/
def IsText (stream : Stream) : Prop := ∃ characters, stream = .text characters

theorem isRegion_isText : IsRegion IsText := by
  intro stream isText count
  rcases isText with ⟨characters, rfl⟩
  exact ⟨characters.drop count, rfl⟩

theorem IsText.exists_ofChar {stream : Stream} {element : Value} (isText : stream.IsText)
    (head : stream.head? = some element) : ∃ character, element = Value.ofChar character := by
  rcases isText with ⟨characters, rfl⟩
  rcases Option.map_eq_some_iff.mp head with ⟨character, _, same⟩
  exact ⟨character, same.symm⟩

end Stream

namespace Parser

open OrderedChoice.Stream (IsText)

variable {α : Type} {parser : Parser α} {condition : α → Prop} {input rest : Stream}
  {values : List α}

/-- Whatever the parser matches on a text has a value for which the condition holds. -/
def Yields (condition : α → Prop) (parser : Parser α) : Prop :=
  ∀ input, input.IsText → ∀ value rest, parser.Succeeds input value rest → condition value

theorem Yields.mono {weaker : α → Prop} (yields : parser.Yields condition)
    (weaken : ∀ value, condition value → weaker value) : parser.Yields weaker := by
  intro input isText value rest success
  exact weaken value (yields input isText value rest success)

theorem Yields.filter (yields : parser.Yields condition)
    (check : α → Except Fault (Option ParseError)) : (parser.filter check).Yields condition := by
  intro input isText value rest success
  exact yields input isText value rest (succeeds_filter_iff.mp success).1

/-- The values of a row of matches. -/
theorem Yields.advances (yields : parser.Yields condition) (kept : parser.Keeps IsText)
    (row : parser.Advances input values rest) (isText : input.IsText) :
    ∀ value ∈ values, condition value := by
  induction row with
  | stay input => exact nofun
  | @step input middle rest value values success _ _ later =>
      have first := yields input isText value middle success
      have others := later (kept input isText value middle success)
      exact List.forall_mem_cons.mpr ⟨first, others⟩

theorem Yields.exactly (yields : parser.Yields condition) (kept : parser.Keeps IsText)
    {count : Nat} (success : (parser.exactly count).Succeeds input values rest)
    (isText : input.IsText) : ∀ value ∈ values, condition value := by
  induction count generalizing input values with
  | zero =>
      rw [(succeeds_exactly_zero_iff.mp success).1]
      exact nofun
  | succ count earlier =>
      rcases succeeds_exactly_succ_iff.mp success with
        ⟨value, more, middle, rfl, started, followed⟩
      have first := yields input isText value middle started
      have others := earlier followed (kept input isText value middle started)
      exact List.forall_mem_cons.mpr ⟨first, others⟩

end Parser

namespace Scanner

open OrderedChoice.Stream (IsText isRegion_isText)

variable {ν : Type} {verbosity : Verbosity} {rules : ν → Parser Value} {rounds : Nat}
  {values : List Value}

/-- The value is a text of one character. -/
def IsCharacter (value : Value) : Prop := ∃ character, value = Value.ofChar character

/-- The value is an integer. -/
def IsInteger (value : Value) : Prop := ∃ number, value = .int number

/-! ## Characters -/

theorem yields_anyCharacter :
    ((anyCharacter : Grammar ν).parser verbosity rules rounds).Yields IsCharacter := by
  intro input isText value rest success
  rcases isText with ⟨characters, rfl⟩
  rcases succeeds_anyCharacter_iff.mp success with ⟨first, _, _, rfl, _⟩
  exact ⟨first, rfl⟩

theorem keeps_anyCharacter :
    ((anyCharacter : Grammar ν).parser verbosity rules rounds).Keeps IsText :=
  Parser.keeps_token isRegion_isText _ _ _

theorem yields_asciiCharacter :
    ((asciiCharacter : Grammar ν).parser verbosity rules rounds).Yields IsCharacter :=
  yields_anyCharacter.filter _

theorem keeps_asciiCharacter :
    ((asciiCharacter : Grammar ν).parser verbosity rules rounds).Keeps IsText :=
  keeps_anyCharacter.filter _

theorem yields_exactCharacter (wanted : Char) :
    ((exactCharacter wanted : Grammar ν).parser verbosity rules rounds).Yields IsCharacter := by
  intro input isText value rest success
  rcases isText with ⟨characters, rfl⟩
  rcases succeeds_exactCharacter_iff.mp success with ⟨_, _, rfl, _⟩
  exact ⟨wanted, rfl⟩

theorem keeps_literal (content : String) :
    ((literal content : Grammar ν).parser verbosity rules rounds).Keeps IsText :=
  Parser.keeps_tokens isRegion_isText _ _ _

/-- Characters are texts that can be joined. -/
theorem exists_texts_of_characters (areCharacters : ∀ value ∈ values, IsCharacter value) :
    ∃ contents : List String, values = contents.map .text := by
  refine exists_map_of_forall ?_
  intro value member
  rcases areCharacters value member with ⟨character, rfl⟩
  exact ⟨String.singleton character, rfl⟩

theorem texts_map (index : Nat) (contents : List String) :
    texts index (contents.map .text) = .ok contents := by
  induction contents generalizing index with
  | nil => rfl
  | cons first others later =>
      rw [List.map_cons, texts, later (index + 1)]
      rfl

/-! ## Digits -/

theorem yields_digit :
    ((digit : Grammar ν).parser verbosity rules rounds).Yields IsInteger := by
  intro input isText value rest success
  rcases isText with ⟨characters, rfl⟩
  rcases readsDigits_digit.succeeds_iff.mp success with ⟨first, _, _, _, rfl, _⟩
  exact ⟨Decimal.digitValue first, rfl⟩

theorem keeps_digit : ((digit : Grammar ν).parser verbosity rules rounds).Keeps IsText :=
  Parser.keeps_token isRegion_isText _ _ _

theorem alphanumericValue_ofChar (character : Char) :
    alphanumericValue (Value.ofChar character) =
      .ok (.int (if character.isAlphanum then Decimal.digitValue character else -1)) := by
  unfold alphanumericValue
  rw [characters_ofChar]
  change (if [character].isEmpty || !([character].all Char.isAlphanum) then
      Except.ok (Value.int (-1))
    else Except.ok (Value.int (Decimal.ofDigits 36 ([character].map Decimal.digitValue)))) = _
  rw [ofDigits_digitValue]
  cases alphanumeric : character.isAlphanum <;> simp [alphanumeric]

theorem yields_alphanumeric :
    ((anyCharacter.map alphanumericValue : Grammar ν).parser verbosity rules rounds).Yields
      IsInteger := by
  intro input isText value rest success
  rcases Parser.succeeds_mapM_iff.mp success with ⟨element, read, changed⟩
  rcases yields_anyCharacter input isText element rest read with ⟨character, rfl⟩
  rw [alphanumericValue_ofChar] at changed
  cases changed
  exact ⟨_, rfl⟩

theorem yields_hexadecimalDigit :
    ((hexadecimalDigit : Grammar ν).parser verbosity rules rounds).Yields IsInteger :=
  yields_alphanumeric.filter _

theorem keeps_hexadecimalDigit :
    ((hexadecimalDigit : Grammar ν).parser verbosity rules rounds).Keeps IsText :=
  (keeps_anyCharacter.mapM _).filter _

/-- A numeral in some base is put together from integers. -/
theorem exists_digits {digit : Grammar ν} {input rest : Stream} {value : Value}
    (yields : (digit.parser verbosity rules rounds).Yields IsInteger)
    (kept : (digit.parser verbosity rules rounds).Keeps IsText) (isText : input.IsText)
    (success : (digit.atLeastOnce.parser verbosity rules rounds).Succeeds input value rest) :
    ∃ digits : List Int, value = .list (digits.map .int) := by
  rcases Grammar.succeeds_atLeastOnce_iff.mp success with ⟨values, rfl, _, row, _⟩
  rcases exists_map_of_forall (yields.advances kept row isText) with ⟨digits, rfl⟩
  exact ⟨digits, rfl⟩

/-- The same behind the mark of the base. -/
theorem exists_digits_behind {mark digit : Grammar ν} {input rest : Stream} {value : Value}
    (yields : (digit.parser verbosity rules rounds).Yields IsInteger)
    (kept : (digit.parser verbosity rules rounds).Keeps IsText)
    (markKept : (mark.parser verbosity rules rounds).Keeps IsText) (isText : input.IsText)
    (success : ((mark.seqRight digit.atLeastOnce).parser verbosity rules rounds).Succeeds input
      value rest) :
    ∃ digits : List Int, value = .list (digits.map .int) := by
  rcases Parser.succeeds_seqRight_iff.mp success with ⟨marked, middle, started, followed⟩
  exact exists_digits yields kept (markKept input isText marked middle started) followed

end Scanner

end OrderedChoice
