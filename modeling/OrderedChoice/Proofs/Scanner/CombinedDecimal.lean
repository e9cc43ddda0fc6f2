import OrderedChoice.Proofs.Scanner.Character
import OrderedChoice.Proofs.Scanner.Numeral

/-!
# Decimals by combinators

Decimals are matched by a pattern, whose search may go back into what it has taken.  The same
decimals can be read by combinators, which never go back into a repetition: digits, and then
perhaps a separator and digits.  Both take the longest decimal at the front of a text, so they
give a separator back in the same cases: when no digit stands behind it.
-/

namespace OrderedChoice

namespace Scanner

variable {characters numeral otherNumeral after otherAfter : List Char}

/-! ## The longest decimal -/

/-- The longest decimal at the front of the text, and what stands behind it. -/
structure BeginsWithNumeral (characters numeral after : List Char) : Prop where
  isNumeral : IsNumeral numeral
  split : characters = numeral ++ after
  longest : ∀ longer, IsNumeral longer → longer <+: characters → longer.length ≤ numeral.length

/-- The longest decimal and what is behind it are determined by the text. -/
theorem BeginsWithNumeral.unique (begins : BeginsWithNumeral characters numeral after)
    (otherBegins : BeginsWithNumeral characters otherNumeral otherAfter) :
    numeral = otherNumeral ∧ after = otherAfter := by
  have starts : numeral <+: characters := ⟨after, begins.split.symm⟩
  have otherStarts : otherNumeral <+: characters := ⟨otherAfter, otherBegins.split.symm⟩
  have noLonger := otherBegins.longest numeral begins.isNumeral starts
  have noShorter := begins.longest otherNumeral otherBegins.isNumeral otherStarts
  have same : numeral = otherNumeral :=
    (List.prefix_of_prefix_length_le starts otherStarts noLonger).eq_of_length_le noShorter
  subst same
  exact ⟨rfl, List.append_cancel_left (begins.split.symm.trans otherBegins.split)⟩

theorem length_afterFraction_le (characters : List Char) :
    (afterFraction characters).length ≤ characters.length := by
  cases characters with
  | nil => exact Nat.le_refl _
  | cons first others =>
      rw [afterFraction]
      split
      · cases taken : afterDigits? others with
        | none => exact Nat.le_refl _
        | some after =>
            rcases AreDigits.of_afterDigits? taken with ⟨digits, _, rfl⟩
            rw [Option.getD_some, List.length_cons, List.length_append]
            omega
      · exact Nat.le_refl _

/-- The pattern leaves no more than any decimal at the front does. -/
theorem IsNumeral.length_afterFraction_le {middle : List Char} (isNumeral : IsNumeral numeral)
    (taken : afterDigits? (numeral ++ after) = some middle) :
    (afterFraction middle).length ≤ after.length := by
  have dropped : (after.dropWhile Char.isDigit).length ≤ after.length :=
    (List.dropWhile_sublist _).length_le
  cases isNumeral with
  | whole areDigits =>
      rw [areDigits.afterDigits?_append, Option.some.injEq] at taken
      subst taken
      exact Nat.le_trans (Scanner.length_afterFraction_le _) dropped
  | @fraction digits places separator areDigits isSeparator arePlaces =>
      rw [List.append_assoc, List.cons_append, areDigits.afterDigits?_eq, Option.some.injEq] at taken
      · subst taken
        rw [afterFraction, if_pos isSeparator, arePlaces.afterDigits?_append, Option.getD_some]
        exact dropped
      · intro first head
        cases head
        exact isDigit_separator isSeparator

/-- The pattern takes the longest decimal. -/
theorem BeginsWithNumeral.of_afterDigits? {middle : List Char}
    (taken : afterDigits? characters = some middle) :
    ∃ numeral, BeginsWithNumeral characters numeral (afterFraction middle) := by
  rcases IsNumeral.of_afterDigits? taken with ⟨numeral, isNumeral, split⟩
  refine ⟨numeral, isNumeral, split, ?_⟩
  intro longer isLonger starts
  rcases starts with ⟨more, rfl⟩
  have left := isLonger.length_afterFraction_le taken
  have sameLength := congrArg List.length split
  rw [List.length_append, List.length_append] at sameLength
  omega

theorem beginsWithNumeral_iff :
    BeginsWithNumeral characters numeral after ↔
      ∃ middle, afterDigits? characters = some middle ∧ after = afterFraction middle ∧
        characters = numeral ++ after := by
  constructor
  · intro begins
    have some : ∃ middle, afterDigits? characters = some middle := by
      rw [begins.split]
      cases begins.isNumeral with
      | whole areDigits => exact ⟨_, areDigits.afterDigits?_append after⟩
      | fraction areDigits _ _ =>
          rw [List.append_assoc]
          exact ⟨_, areDigits.afterDigits?_append _⟩
    rcases some with ⟨middle, taken⟩
    rcases BeginsWithNumeral.of_afterDigits? taken with ⟨other, otherBegins⟩
    exact ⟨middle, taken, (begins.unique otherBegins).2, begins.split⟩
  · intro described
    rcases described with ⟨middle, taken, rfl, split⟩
    rcases BeginsWithNumeral.of_afterDigits? taken with ⟨other, begins⟩
    have same : numeral = other := List.append_cancel_right (split.symm.trans begins.split)
    exact same ▸ begins

theorem afterDigits?_eq_none_iff :
    afterDigits? characters = none ↔
      ∀ first, characters.head? = some first → first.isDigit = false := by
  cases characters with
  | nil => exact ⟨fun _ => nofun, fun _ => rfl⟩
  | cons first others =>
      rw [afterDigits?, List.head?_cons]
      cases digit : first.isDigit with
      | true => simp [digit]
      | false => simp [digit]

/-- A decimal with a separator has digits on both sides of it. -/
theorem IsNumeral.of_separator {whole places : List Char} {separator : Char}
    (isNumeral : IsNumeral (whole ++ separator :: places)) (isSeparator : separator ∈ ['.', ',']) :
    AreDigits whole ∧ AreDigits places := by
  have notDigit : separator.isDigit ≠ true := by simp [isDigit_separator isSeparator]
  generalize written : whole ++ separator :: places = numeral at isNumeral
  cases isNumeral with
  | whole areDigits =>
      have member : separator ∈ numeral := written ▸ List.mem_append_cons_self
      exact absurd (areDigits.isDigit separator member) notDigit
  | @fraction digits otherPlaces mark areDigits isMark arePlaces =>
      -- The two separators stand in the same place, as neither is a digit.
      have absent : separator ∉ digits := fun member =>
        notDigit (areDigits.isDigit separator member)
      have absentBehind : separator ∉ otherPlaces := fun member =>
        notDigit (arePlaces.isDigit separator member)
      rcases (List.append_cons_inj_of_notMem absent absentBehind).mp written.symm with
        ⟨rfl, rfl, rfl⟩
      exact ⟨areDigits, arePlaces⟩

/-- A decimal with a separator is the longest just when it has digits on both sides and none
behind it, whichever the separator is. -/
theorem beginsWithNumeral_separator_iff {whole places : List Char} {separator : Char}
    (isSeparator : separator ∈ ['.', ',']) :
    BeginsWithNumeral ((whole ++ separator :: places) ++ after) (whole ++ separator :: places)
        after ↔
      AreDigits whole ∧ AreDigits places ∧
        ∀ first, after.head? = some first → first.isDigit = false := by
  have taken : AreDigits whole → afterDigits? ((whole ++ separator :: places) ++ after) =
      some (separator :: (places ++ after)) := by
    intro areDigits
    rw [List.append_assoc, List.cons_append]
    refine areDigits.afterDigits?_eq ?_
    intro first head
    cases head
    exact isDigit_separator isSeparator
  have left : AreDigits places →
      afterFraction (separator :: (places ++ after)) = after.dropWhile Char.isDigit := by
    intro arePlaces
    rw [afterFraction, if_pos isSeparator, arePlaces.afterDigits?_append, Option.getD_some]
  constructor
  · intro begins
    rcases begins.isNumeral.of_separator isSeparator with ⟨areDigits, arePlaces⟩
    refine ⟨areDigits, arePlaces, ?_⟩
    rcases beginsWithNumeral_iff.mp begins with ⟨middle, found, rest, _⟩
    cases found.symm.trans (taken areDigits)
    have behind := arePlaces.afterDigits?_append after
    rw [← left arePlaces, ← rest] at behind
    exact ends_of_afterDigits? behind
  · intro described
    rcases described with ⟨areDigits, arePlaces, ends⟩
    refine beginsWithNumeral_iff.mpr ⟨_, taken areDigits, ?_, rfl⟩
    rw [left arePlaces, dropWhile_isDigit_eq_self ends]

/-- A separator with no digit behind it is not part of a decimal. -/
theorem AreDigits.beginsWithNumeral {whole others : List Char} {separator : Char}
    (areDigits : AreDigits whole) (isSeparator : separator ∈ ['.', ','])
    (ends : ∀ first, others.head? = some first → first.isDigit = false) :
    BeginsWithNumeral (whole ++ separator :: others) whole (separator :: others) := by
  refine beginsWithNumeral_iff.mpr ⟨separator :: others, areDigits.afterDigits?_eq ?_, ?_, rfl⟩
  · intro first head
    cases head
    exact isDigit_separator isSeparator
  · rw [afterFraction, if_pos isSeparator, afterDigits?_eq_none_iff.mpr ends, Option.getD_none]

/-- The separator does not count for what is read. -/
theorem AreDigits.read_append {whole places : List Char} {separator otherSeparator : Char}
    (areDigits : AreDigits whole) (isSeparator : separator ∈ ['.', ','])
    (otherIsSeparator : otherSeparator ∈ ['.', ',']) :
    Decimal.read (whole ++ separator :: places) =
      Decimal.read (whole ++ otherSeparator :: places) := by
  unfold Decimal.read
  rw [areDigits.takeWhile_append isSeparator, areDigits.dropWhile_append isSeparator,
    areDigits.takeWhile_append otherIsSeparator, areDigits.dropWhile_append otherIsSeparator]
  rfl

/-- A decimal stands at the front wherever a digit does. -/
theorem not_exists_beginsWithNumeral_iff :
    (¬ ∃ numeral after, BeginsWithNumeral characters numeral after) ↔
      ∀ first, characters.head? = some first → first.isDigit = false := by
  rw [← afterDigits?_eq_none_iff]
  constructor
  · intro none
    cases taken : afterDigits? characters with
    | none => rfl
    | some middle =>
        rcases BeginsWithNumeral.of_afterDigits? taken with ⟨numeral, begins⟩
        exact absurd ⟨numeral, _, begins⟩ none
  · intro none some
    rcases some with ⟨numeral, after, begins⟩
    rcases beginsWithNumeral_iff.mp begins with ⟨middle, taken, _, _⟩
    cases none.symm.trans taken

/-! ## The pattern -/

theorem regex?_decimalPattern {ν : Type} :
    (regex? (.text "[0-9]+([.,][0-9]+)?") plainFlags : Except Fault (Grammar ν)) =
      .ok (.matching decimalPattern) := by
  simp only [regex?, ofText?_decimalPattern]
  rfl

section Parsing

variable {ν : Type} {verbosity : Verbosity} {rules : ν → Parser Value} {rounds : Nat}
  {rest : Stream} {value : Value}

theorem succeeds_decimal_iff :
    ((decimal : Grammar ν).parser verbosity rules rounds).Succeeds (.text characters) value rest ↔
      ∃ numeral after, BeginsWithNumeral characters numeral after ∧
        value = .float (Decimal.read numeral) ∧ rest = .text after := by
  have reads : ∀ {numeral after}, BeginsWithNumeral characters numeral after →
      ((decimal : Grammar ν).parser verbosity rules rounds).Succeeds (.text characters)
        (.float (Decimal.read numeral)) (.text after) := by
    intro numeral after begins
    rcases beginsWithNumeral_iff.mp begins with ⟨middle, taken, rfl, split⟩
    exact Parser.succeeds_mapM_iff.mpr
      ⟨_, succeeds_matching taken split, begins.isNumeral.floatingValue⟩
  constructor
  · intro success
    by_cases some : ∃ numeral after, BeginsWithNumeral characters numeral after
    · rcases some with ⟨numeral, after, begins⟩
      rcases success.unique (reads begins) with ⟨rfl, rfl⟩
      exact ⟨numeral, after, begins, rfl, rfl⟩
    · rcases fails_decimal (not_exists_beginsWithNumeral_iff.mp some) with ⟨error, failed⟩
      exact absurd failed success.not_fails
  · intro success
    rcases success with ⟨numeral, after, begins, rfl, rfl⟩
    exact reads begins

theorem answers_decimal (characters : List Char) :
    ((decimal : Grammar ν).parser verbosity rules rounds).Answers (.text characters) := by
  by_cases some : ∃ numeral after, BeginsWithNumeral characters numeral after
  · rcases some with ⟨numeral, after, begins⟩
    exact (succeeds_decimal_iff.mpr ⟨numeral, after, begins, rfl, rfl⟩).answers
  · rcases fails_decimal (not_exists_beginsWithNumeral_iff.mp some) with ⟨error, failed⟩
    exact failed.answers

/-! ## The combinators -/

/-- Match a point or a comma. -/
def separator : Grammar ν := (exactCharacter '.').orElse (exactCharacter ',')

/-- Match a separator and the digits behind it. -/
def fraction : Grammar ν := separator.both digit.atLeastOnce

/-- Match digits, and a separator with more of them where there is one. -/
def combinedDecimal : Grammar ν := digit.atLeastOnce.both fraction.optional

theorem exists_succeeds_separator_iff :
    (∃ value, ((separator : Grammar ν).parser verbosity rules rounds).Succeeds (.text characters)
        value rest) ↔
      ∃ first others, characters = first :: others ∧ first ∈ ['.', ','] ∧ rest = .text others := by
  constructor
  · intro success
    rcases success with ⟨value, success⟩
    rcases Parser.succeeds_orElse_iff.mp success with point | ⟨_, comma⟩
    · rcases succeeds_exactCharacter_iff.mp point with ⟨others, rfl, _, rfl⟩
      exact ⟨'.', others, rfl, by decide, rfl⟩
    · rcases succeeds_exactCharacter_iff.mp comma with ⟨others, rfl, _, rfl⟩
      exact ⟨',', others, rfl, by decide, rfl⟩
  · intro success
    rcases success with ⟨first, others, rfl, isSeparator, rfl⟩
    rcases List.mem_pair.mp isSeparator with rfl | rfl
    · exact ⟨_, Parser.succeeds_orElse_iff.mpr
        (Or.inl (succeeds_exactCharacter_iff.mpr ⟨others, rfl, rfl, rfl⟩))⟩
    · exact ⟨_, Parser.succeeds_orElse_iff.mpr (Or.inr ⟨fails_exactCharacter (by simp),
        succeeds_exactCharacter_iff.mpr ⟨others, rfl, rfl, rfl⟩⟩)⟩

theorem exists_succeeds_digits_iff :
    (∃ value, ((digit.atLeastOnce : Grammar ν).parser verbosity rules rounds).Succeeds
        (.text characters) value rest) ↔
      ∃ after, afterDigits? characters = some after ∧ rest = .text after := by
  constructor
  · intro success
    rcases success with ⟨value, success⟩
    rcases readsDigits_digit.succeeds_atLeastOnce_iff.mp success with
      ⟨digits, after, some, isDigit, ends, rfl, _, left⟩
    exact ⟨after, AreDigits.afterDigits?_eq ⟨some, isDigit⟩ ends, left⟩
  · intro success
    rcases success with ⟨after, taken, left⟩
    rcases AreDigits.of_afterDigits? taken with ⟨digits, areDigits, split⟩
    exact ⟨_, readsDigits_digit.succeeds_atLeastOnce_iff.mpr ⟨digits, after, areDigits.ne_nil,
      areDigits.isDigit, ends_of_afterDigits? taken, split, rfl, left⟩⟩

theorem exists_succeeds_fraction_iff :
    (∃ value, ((fraction : Grammar ν).parser verbosity rules rounds).Succeeds (.text characters)
        value rest) ↔
      ∃ first others after, characters = first :: others ∧ first ∈ ['.', ','] ∧
        afterDigits? others = some after ∧ rest = .text after := by
  constructor
  · intro success
    rcases success with ⟨value, success⟩
    rcases Grammar.succeeds_both_iff.mp success with ⟨mark, places, middle, _, marked, counted⟩
    rcases exists_succeeds_separator_iff.mp ⟨mark, marked⟩ with
      ⟨first, others, rfl, isSeparator, rfl⟩
    rcases exists_succeeds_digits_iff.mp ⟨places, counted⟩ with ⟨after, taken, left⟩
    exact ⟨first, others, after, rfl, isSeparator, taken, left⟩
  · intro success
    rcases success with ⟨first, others, after, rfl, isSeparator, taken, rfl⟩
    rcases exists_succeeds_separator_iff.mpr ⟨first, others, rfl, isSeparator, rfl⟩ with
      ⟨mark, marked⟩
    rcases exists_succeeds_digits_iff.mpr ⟨after, taken, rfl⟩ with ⟨places, counted⟩
    exact ⟨_, Grammar.succeeds_both_iff.mpr ⟨mark, places, _, rfl, marked, counted⟩⟩

theorem answers_fraction (characters : List Char) :
    ((fraction : Grammar ν).parser verbosity rules rounds).Answers (.text characters) := by
  have composes := Run.isCompositional_returns
  refine composes.map (composes.both (composes.orElse (answers_exactCharacter '.' _) fun _ =>
    answers_exactCharacter ',' _) ?_) _
  intro mark middle marked
  rcases exists_succeeds_separator_iff.mp ⟨mark, marked⟩ with ⟨_, others, _, _, rfl⟩
  exact readsDigits_digit.answers_atLeastOnce others

/-- A fraction that is not there leaves everything. -/
theorem afterFraction_of_fails {error : ParseError}
    (failure : ((fraction : Grammar ν).parser verbosity rules rounds).Fails (.text characters)
      error) : afterFraction characters = characters := by
  cases characters with
  | nil => rfl
  | cons first others =>
      rw [afterFraction]
      split
      · rename_i isSeparator
        cases taken : afterDigits? others with
        | none => rfl
        | some after =>
            rcases exists_succeeds_fraction_iff.mpr
              ⟨first, others, after, rfl, isSeparator, taken, rfl⟩ with ⟨value, success⟩
            exact absurd failure success.not_fails
      · rfl

theorem exists_succeeds_optional_fraction_iff :
    (∃ value, ((fraction.optional : Grammar ν).parser verbosity rules rounds).Succeeds
        (.text characters) value rest) ↔ rest = .text (afterFraction characters) := by
  have leaves : ∀ {value rest},
      ((fraction.optional : Grammar ν).parser verbosity rules rounds).Succeeds (.text characters)
        value rest → rest = .text (afterFraction characters) := by
    intro value rest success
    rcases Grammar.succeeds_optional_iff.mp success with matched | ⟨⟨error, failed⟩, _, rfl⟩
    · rcases exists_succeeds_fraction_iff.mp ⟨value, matched⟩ with
        ⟨first, others, after, rfl, isSeparator, taken, rfl⟩
      rw [afterFraction, if_pos isSeparator, taken, Option.getD_some]
    · rw [afterFraction_of_fails failed]
  constructor
  · intro success
    rcases success with ⟨value, success⟩
    exact leaves success
  · intro left
    have some : ∃ value final,
        ((fraction.optional : Grammar ν).parser verbosity rules rounds).Succeeds (.text characters)
          value final := by
      rcases (answers_fraction characters).cases with ⟨value, final, matched⟩ | failed
      · exact ⟨value, final, Grammar.succeeds_optional_iff.mpr (Or.inl matched)⟩
      · exact ⟨.nothing, _, Grammar.succeeds_optional_iff.mpr (Or.inr ⟨failed, rfl, rfl⟩)⟩
    rcases some with ⟨value, final, success⟩
    exact ⟨value, by rw [left, ← leaves success]; exact success⟩

theorem exists_succeeds_combinedDecimal_iff :
    (∃ value, ((combinedDecimal : Grammar ν).parser verbosity rules rounds).Succeeds
        (.text characters) value rest) ↔
      ∃ numeral after, BeginsWithNumeral characters numeral after ∧ rest = .text after := by
  constructor
  · intro success
    rcases success with ⟨value, success⟩
    rcases Grammar.succeeds_both_iff.mp success with ⟨whole, places, middle, _, counted, followed⟩
    rcases exists_succeeds_digits_iff.mp ⟨whole, counted⟩ with ⟨after, taken, rfl⟩
    rcases BeginsWithNumeral.of_afterDigits? taken with ⟨numeral, begins⟩
    exact ⟨numeral, _, begins, exists_succeeds_optional_fraction_iff.mp ⟨places, followed⟩⟩
  · intro success
    rcases success with ⟨numeral, after, begins, rfl⟩
    rcases beginsWithNumeral_iff.mp begins with ⟨middle, taken, left, _⟩
    rcases exists_succeeds_digits_iff.mpr ⟨middle, taken, rfl⟩ with ⟨whole, counted⟩
    rcases exists_succeeds_optional_fraction_iff.mpr (congrArg Stream.text left) with
      ⟨places, followed⟩
    exact ⟨_, Grammar.succeeds_both_iff.mpr ⟨whole, places, _, rfl, counted, followed⟩⟩

theorem answers_combinedDecimal (characters : List Char) :
    ((combinedDecimal : Grammar ν).parser verbosity rules rounds).Answers (.text characters) := by
  have composes := Run.isCompositional_returns
  refine composes.map (composes.both (readsDigits_digit.answers_atLeastOnce characters) ?_) _
  intro whole middle counted
  rcases exists_succeeds_digits_iff.mp ⟨whole, counted⟩ with ⟨after, _, rfl⟩
  exact composes.orElse (answers_fraction after) fun _ => composes.answer _

/-! ## The two side by side -/

/-- The two parsers succeed on the same texts, and leave the same. -/
theorem exists_succeeds_iff {grammar : Grammar ν} (either : grammar ∈ [decimal, combinedDecimal]) :
    (∃ value, (grammar.parser verbosity rules rounds).Succeeds (.text characters) value rest) ↔
      ∃ numeral after, BeginsWithNumeral characters numeral after ∧ rest = .text after := by
  rcases List.mem_pair.mp either with rfl | rfl
  · constructor
    · intro success
      rcases success with ⟨value, success⟩
      rcases succeeds_decimal_iff.mp success with ⟨numeral, after, begins, _, left⟩
      exact ⟨numeral, after, begins, left⟩
    · intro described
      rcases described with ⟨numeral, after, begins, left⟩
      exact ⟨_, succeeds_decimal_iff.mpr ⟨numeral, after, begins, rfl, left⟩⟩
  · exact exists_succeeds_combinedDecimal_iff

/-- Both answer on every text, and fail where it does not begin with a digit. -/
theorem answers_and_fails_iff {grammar : Grammar ν}
    (either : grammar ∈ [decimal, combinedDecimal]) (characters : List Char) :
    (grammar.parser verbosity rules rounds).Answers (.text characters) ∧
      ((∃ error, (grammar.parser verbosity rules rounds).Fails (.text characters) error) ↔
        ∀ first, characters.head? = some first → first.isDigit = false) := by
  have answers : (grammar.parser verbosity rules rounds).Answers (.text characters) := by
    rcases List.mem_pair.mp either with rfl | rfl
    · exact answers_decimal characters
    · exact answers_combinedDecimal characters
  refine ⟨answers, answers.exists_fails_iff.trans (Iff.trans (not_congr ?_)
    not_exists_beginsWithNumeral_iff)⟩
  constructor
  · intro success
    rcases success with ⟨value, rest, success⟩
    rcases (exists_succeeds_iff either).mp ⟨value, success⟩ with ⟨numeral, after, begins, _⟩
    exact ⟨numeral, after, begins⟩
  · intro described
    rcases described with ⟨numeral, after, begins⟩
    rcases (exists_succeeds_iff either).mpr ⟨numeral, after, begins, rfl⟩ with ⟨value, success⟩
    exact ⟨value, _, success⟩

/-- A decimal with one separator is read just where it is with another, to the same number and
with the same text left. -/
theorem succeeds_decimal_separator {whole places : List Char} {separator otherSeparator : Char}
    (isSeparator : separator ∈ ['.', ',']) (otherIsSeparator : otherSeparator ∈ ['.', ','])
    (success : ((decimal : Grammar ν).parser verbosity rules rounds).Succeeds
      (.text ((whole ++ separator :: places) ++ after)) value (.text after)) :
    ((decimal : Grammar ν).parser verbosity rules rounds).Succeeds
      (.text ((whole ++ otherSeparator :: places) ++ after)) value (.text after) := by
  rcases succeeds_decimal_iff.mp success with ⟨numeral, _, begins, rfl, left⟩
  cases left
  have same : whole ++ separator :: places = numeral := List.append_cancel_right begins.split
  subst same
  have described := (beginsWithNumeral_separator_iff isSeparator).mp begins
  refine succeeds_decimal_iff.mpr ⟨whole ++ otherSeparator :: places, after,
    (beginsWithNumeral_separator_iff otherIsSeparator).mpr described, ?_, rfl⟩
  rw [described.1.read_append isSeparator otherIsSeparator]

/-- The parser for decimals, which searches its pattern with backtracking, and the combinators
for digits and perhaps a separator with digits, which have none, agree on every text.  Both
answer, they succeed on the same texts and leave the same rest, and they fail where the text
does not begin with a digit of ASCII.  What is taken is the longest decimal at the front, so a
separator with no digit behind it is left, and converting what the pattern matched does not
fail.  A point and a comma can be put for each other in what is taken. -/
theorem pattern_agrees_with_combinators (verbosity : Verbosity) (rules : ν → Parser Value)
    (rounds : Nat) (characters : List Char) :
    let meaning := Grammar.parser verbosity rules rounds
    (regex? (.text "[0-9]+([.,][0-9]+)?") plainFlags =
        .ok (.matching decimalPattern : Grammar ν) ∧
      decimal = (.matching decimalPattern : Grammar ν).map floatingValue) ∧
    (∀ rest, (∃ value, (meaning decimal).Succeeds (.text characters) value rest) ↔
      ∃ value, (meaning combinedDecimal).Succeeds (.text characters) value rest) ∧
    (∀ grammar ∈ [decimal, combinedDecimal], (meaning grammar).Answers (.text characters) ∧
      ((∃ error, (meaning grammar).Fails (.text characters) error) ↔
        ∀ first, characters.head? = some first → first.isDigit = false)) ∧
    (∀ value rest, (meaning decimal).Succeeds (.text characters) value rest ↔
      ∃ numeral after, BeginsWithNumeral characters numeral after ∧
        value = .float (Decimal.read numeral) ∧ rest = .text after) ∧
    (∀ whole separator others, AreDigits whole → separator ∈ ['.', ','] →
      characters = whole ++ separator :: others →
      (∀ first, others.head? = some first → first.isDigit = false) →
      (meaning decimal).Succeeds (.text characters) (.float (Decimal.read whole))
        (.text (separator :: others))) ∧
    (∀ content rest, (meaning (.matching decimalPattern)).Succeeds (.text characters) content
      rest → ∃ number, floatingValue content = .ok (.float number)) ∧
    ∀ whole places after value, characters = (whole ++ ',' :: places) ++ after →
      (meaning decimal).Succeeds (.text characters) value (.text after) →
      (meaning decimal).Succeeds (.text ((whole ++ '.' :: places) ++ after)) value
        (.text after) := by
  intro meaning
  refine ⟨⟨regex?_decimalPattern, rfl⟩, ?_,
    fun grammar either => answers_and_fails_iff either characters,
    fun value rest => succeeds_decimal_iff, ?_, ?_, ?_⟩
  · intro rest
    exact (exists_succeeds_iff (by simp)).trans (exists_succeeds_iff (by simp)).symm
  · intro whole separator others areDigits isSeparator split ends
    subst split
    exact succeeds_decimal_iff.mpr
      ⟨whole, _, areDigits.beginsWithNumeral isSeparator ends, rfl, rfl⟩
  · intro content rest matched
    rcases IsNumeral.of_matching matched with ⟨numeral, after, isNumeral, _, rfl, _⟩
    exact ⟨_, isNumeral.floatingValue⟩
  · intro whole places after value split success
    subst split
    exact succeeds_decimal_separator (by decide) (by decide) success

end Parsing

end Scanner

end OrderedChoice
