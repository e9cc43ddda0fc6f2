import OrderedChoice.Proofs.Grammar.Parts
import OrderedChoice.Proofs.Grammar.Unrolling
import OrderedChoice.Proofs.Scanner.Character

/-!
# Items with separators

Items with separators between them are an item and then rounds of a separator and an item.  The
rounds are described here without the repetition that reads them.  A row ends at the first place
where a round does not match as a whole, so a separator without an item behind it is given back,
and a round that takes nothing off the input makes the row fail.
-/

namespace OrderedChoice

namespace Parser

variable {α ω : Type} {item : Parser α} {separator : Parser ω} {input rest : Stream}
  {values : List α} {error : ParseError} {halt : Halt}

/-- A separator and an item behind it succeed once for each value, every time on what the time
before has left, and each such round leaves less than it was given. -/
inductive Rounds (item : Parser α) (separator : Parser ω) : Stream → List α → Stream → Prop where
  | none (input : Stream) : Rounds item separator input [] input
  | round {input behind middle rest : Stream} {mark : ω} {value : α} {values : List α}
      (separated : separator.Succeeds input mark behind) (matched : item.Succeeds behind value middle)
      (shorter : middle.length < input.length)
      (later : Rounds item separator middle values rest) :
      Rounds item separator input (value :: values) rest

/-- No round matches as a whole: the separator fails, or an item behind it does. -/
def Breaks (item : Parser α) (separator : Parser ω) (input : Stream) : Prop :=
  (∃ error, separator.Fails input error) ∨
    ∃ mark behind error, separator.Succeeds input mark behind ∧ item.Fails behind error

/-- A round matches and leaves no less than it was given. -/
def Idles (item : Parser α) (separator : Parser ω) (input : Stream) : Prop :=
  ∃ mark behind value rest, separator.Succeeds input mark behind ∧
    item.Succeeds behind value rest ∧ input.length ≤ rest.length

theorem advances_seqRight_iff :
    (separator.seqRight item).Advances input values rest ↔
      Rounds item separator input values rest := by
  constructor
  · intro row
    induction row with
    | stay input => exact .none input
    | step success shorter _ rounds =>
        rcases succeeds_seqRight_iff.mp success with ⟨mark, behind, separated, matched⟩
        exact .round separated matched shorter rounds
  · intro rounds
    induction rounds with
    | none input => exact .stay input
    | round separated matched shorter _ row =>
        exact .step (succeeds_seqRight_iff.mpr ⟨_, _, separated, matched⟩) shorter row

theorem fails_seqRight_iff_breaks :
    (∃ error, (separator.seqRight item).Fails input error) ↔ Breaks item separator input := by
  constructor
  · intro failure
    rcases failure with ⟨error, failed⟩
    rcases fails_seqRight_iff.mp failed with failed | ⟨mark, behind, separated, failed⟩
    · exact Or.inl ⟨error, failed⟩
    · exact Or.inr ⟨mark, behind, error, separated, failed⟩
  · intro breaks
    rcases breaks with ⟨error, failed⟩ | ⟨mark, behind, error, separated, failed⟩
    · exact ⟨error, fails_seqRight_iff.mpr (Or.inl failed)⟩
    · exact ⟨error, fails_seqRight_iff.mpr (Or.inr ⟨mark, behind, separated, failed⟩)⟩

theorem stalls_seqRight_iff :
    (separator.seqRight item).Stalls input ↔ Idles item separator input := by
  constructor
  · intro stalls
    rcases stalls with ⟨value, rest, success, notShorter⟩
    rcases succeeds_seqRight_iff.mp success with ⟨mark, behind, separated, matched⟩
    exact ⟨mark, behind, value, rest, separated, matched, notShorter⟩
  · intro idles
    rcases idles with ⟨mark, behind, value, rest, separated, matched, notShorter⟩
    exact ⟨value, rest, succeeds_seqRight_iff.mpr ⟨mark, behind, separated, matched⟩, notShorter⟩

/-- Rounds leave what the item of the last round has left. -/
theorem Rounds.exists_last (rounds : Rounds item separator input values rest) {first : α}
    {start : Stream} (matched : item.Succeeds start first input) :
    ∃ before last others, first :: values = others ++ [last] ∧
      item.Succeeds before last rest := by
  induction rounds generalizing first start with
  | none input => exact ⟨start, first, [], rfl, matched⟩
  | round _ next _ _ later =>
      rcases later next with ⟨before, last, others, same, success⟩
      exact ⟨before, last, first :: others, congrArg (first :: ·) same, success⟩

end Parser

namespace Grammar

open OrderedChoice.Parser (Rounds Breaks Idles)

variable {ν : Type} {verbosity : Verbosity} {rules : ν → Parser Value} {rounds : Nat}
  {item separator : Grammar ν} {input rest : Stream} {value : Value} {error : ParseError}
  {halt : Halt}

/-! ## At least one item -/

theorem separatedOnce_eq_oneThenMany (item separator : Grammar ν) :
    item.separatedOnce separator = oneThenMany item (separator.seqRight item) := rfl

theorem succeeds_separatedOnce_iff :
    ((item.separatedOnce separator).parser verbosity rules rounds).Succeeds input value rest ↔
      ∃ first others middle, value = .list (first :: others) ∧
        (item.parser verbosity rules rounds).Succeeds input first middle ∧
        Rounds (item.parser verbosity rules rounds) (separator.parser verbosity rules rounds)
          middle others rest ∧
        Breaks (item.parser verbosity rules rounds) (separator.parser verbosity rules rounds)
          rest := by
  rw [separatedOnce_eq_oneThenMany, succeeds_oneThenMany_iff]
  simp only [← Parser.advances_seqRight_iff, ← Parser.fails_seqRight_iff_breaks]
  rfl

theorem fails_separatedOnce_iff :
    ((item.separatedOnce separator).parser verbosity rules rounds).Fails input error ↔
      (item.parser verbosity rules rounds).Fails input error ∨
        ∃ first middle others start,
          (item.parser verbosity rules rounds).Succeeds input first middle ∧
          Rounds (item.parser verbosity rules rounds) (separator.parser verbosity rules rounds)
            middle others start ∧
          Idles (item.parser verbosity rules rounds) (separator.parser verbosity rules rounds)
            start ∧
          error = .zeroWidth "many" (some start.length) := by
  rw [separatedOnce_eq_oneThenMany, fails_oneThenMany_iff]
  simp only [← Parser.advances_seqRight_iff, ← Parser.stalls_seqRight_iff]
  rfl

theorem halts_separatedOnce_iff :
    ((item.separatedOnce separator).parser verbosity rules rounds input).outcome = .error halt ↔
      (item.parser verbosity rules rounds input).outcome = .error halt ∨
        ∃ first middle others start,
          (item.parser verbosity rules rounds).Succeeds input first middle ∧
          Rounds (item.parser verbosity rules rounds) (separator.parser verbosity rules rounds)
            middle others start ∧
          ((separator.parser verbosity rules rounds start).outcome = .error halt ∨
            ∃ mark behind, (separator.parser verbosity rules rounds).Succeeds start mark behind ∧
              (item.parser verbosity rules rounds behind).outcome = .error halt) := by
  rw [separatedOnce_eq_oneThenMany, halts_oneThenMany_iff]
  simp only [← Parser.advances_seqRight_iff, ← Parser.halts_seqRight_iff]
  rfl

/-- With items and separators that always return, a row returns. -/
theorem answers_separatedOnce
    (itemReturns : ∀ current, (item.parser verbosity rules rounds).Answers current)
    (separatorReturns : ∀ current, (separator.parser verbosity rules rounds).Answers current)
    (input : Stream) :
    ((item.separatedOnce separator).parser verbosity rules rounds).Answers input := by
  refine Parser.answers_of_not_halts ?_
  intro halt halted
  rcases halts_separatedOnce_iff.mp halted with halted | ⟨_, _, _, start, _, _, halted⟩
  · exact (itemReturns input).not_halts halted
  · rcases halted with halted | ⟨mark, behind, _, halted⟩
    · exact (separatorReturns start).not_halts halted
    · exact (itemReturns behind).not_halts halted

/-- A row of items matches an item and then as many rounds of a separator and an item as there
are, each of which shortens the input.  It ends right behind an item, where the next round breaks
off: a separator that stands there without an item behind it stays in the input.  The row fails
as its first item does, or with an error at the start of a round that shortens nothing.  It does
not return exactly where an item or a separator on the way does not, so items and separators
that always return leave no other way for it to end. -/
theorem separatedOnce_reads_rounds (verbosity : Verbosity) (rules : ν → Parser Value)
    (rounds : Nat) (item separator : Grammar ν) (input : Stream) :
    let meaning := Grammar.parser verbosity rules rounds
    let itemParser := meaning item
    let separatorParser := meaning separator
    let row := meaning (item.separatedOnce separator)
    (∀ value rest, row.Succeeds input value rest ↔
      ∃ first others middle, value = .list (first :: others) ∧
        itemParser.Succeeds input first middle ∧
        Rounds itemParser separatorParser middle others rest ∧
        Breaks itemParser separatorParser rest) ∧
    (∀ value rest, row.Succeeds input value rest →
      ∃ before last others, value = .list (others ++ [last]) ∧
        itemParser.Succeeds before last rest) ∧
    (∀ error, row.Fails input error ↔
      itemParser.Fails input error ∨
        ∃ first middle others start, itemParser.Succeeds input first middle ∧
          Rounds itemParser separatorParser middle others start ∧
          Idles itemParser separatorParser start ∧
          error = .zeroWidth "many" (some start.length)) ∧
    (∀ halt, (row input).outcome = .error halt ↔
      (itemParser input).outcome = .error halt ∨
        ∃ first middle others start, itemParser.Succeeds input first middle ∧
          Rounds itemParser separatorParser middle others start ∧
          ((separatorParser start).outcome = .error halt ∨
            ∃ mark behind, separatorParser.Succeeds start mark behind ∧
              (itemParser behind).outcome = .error halt)) ∧
    ((∀ current, itemParser.Answers current) → (∀ current, separatorParser.Answers current) →
      row.Answers input) := by
  intro meaning itemParser separatorParser row
  refine ⟨fun value rest => succeeds_separatedOnce_iff, ?_, fun error => fails_separatedOnce_iff,
    fun halt => halts_separatedOnce_iff, ?_⟩
  · intro value rest success
    rcases succeeds_separatedOnce_iff.mp success with ⟨first, others, middle, same, matched, read, _⟩
    rcases read.exists_last matched with ⟨before, last, earlier, split, lastMatched⟩
    exact ⟨before, last, earlier, by rw [same, split], lastMatched⟩
  · intro itemReturns separatorReturns
    exact answers_separatedOnce itemReturns separatorReturns input

/-- A separator behind the last item is given back. -/
theorem separatedOnce_gives_back_comma :
    let meaning := Grammar.parser .warning (fun _ : Unit => Parser.fail "") 0
    let item := Scanner.exactCharacter 'a'
    let separator := Scanner.exactCharacter ','
    let row := meaning (item.separatedOnce separator)
    let input := Stream.text ['a', ',', 'a', ',']
    (∀ current, (meaning item).Answers current) ∧
      (∀ current, (meaning separator).Answers current) ∧ row.Answers input ∧
      row.Succeeds input (.list [.text "a", .text "a"]) (.text [',']) := by
  intro meaning item separator row input
  have returns : ∀ character current,
      (meaning (Scanner.exactCharacter character)).Answers current :=
    Scanner.answers_exactCharacter
  have law := separatedOnce_reads_rounds .warning (fun _ : Unit => Parser.fail "") 0 item separator
    input
  have matched : (meaning item).Succeeds input (.text "a") (.text [',', 'a', ',']) := rfl
  have read : Rounds (meaning item) (meaning separator) (.text [',', 'a', ',']) [.text "a"]
      (.text [',']) := .round rfl rfl (by decide) (.none _)
  have breaks : Breaks (meaning item) (meaning separator) (.text [',']) :=
    Or.inr ⟨_, _, _, rfl, rfl⟩
  exact ⟨returns 'a', returns ',', law.2.2.2.2 (returns 'a') (returns ','),
    (law.1 _ _).mpr ⟨_, _, _, rfl, matched, read, breaks⟩⟩

/-! ## Any number of items -/

theorem succeeds_separated_iff :
    ((item.separated separator).parser verbosity rules rounds).Succeeds input value rest ↔
      ((item.separatedOnce separator).parser verbosity rules rounds).Succeeds input value rest ∨
        (∃ error, ((item.separatedOnce separator).parser verbosity rules rounds).Fails input
          error) ∧ value = .list [] ∧ rest = input :=
  Parser.succeeds_orElse_iff.trans (or_congr Iff.rfl (and_congr Iff.rfl Parser.succeeds_pure_iff))

theorem not_fails_separated :
    ¬ ((item.separated separator).parser verbosity rules rounds).Fails input error := by
  intro failure
  exact Parser.not_fails_pure (Parser.fails_orElse_iff.mp failure).2

/-- The empty row stands in for every failure, and for nothing else. -/
theorem outcome_separated_eq_iff :
    ((item.separated separator).parser verbosity rules rounds input).outcome =
        ((item.separatedOnce separator).parser verbosity rules rounds input).outcome ↔
      ∀ error, ¬ ((item.separatedOnce separator).parser verbosity rules rounds).Fails input
        error := by
  constructor
  · intro same error failure
    exact not_fails_separated (same.trans failure)
  · intro neverFails
    change (Parser.orElse _ _ input).outcome = _
    rw [Parser.outcome_orElse]
    cases ended : ((item.separatedOnce separator).parser verbosity rules rounds input).outcome with
    | error halt => rfl
    | ok result =>
        cases result with
        | success value rest => rfl
        | failure error => exact absurd ended (neverFails error)

/-- Any number of items never fail.  Where there is no first item the row is empty.  Where there
is one, the row is read as if at least one item were required, unless a round on the way shortens
nothing: then all the items are given up, and an empty row that has taken nothing stands in for
the error. -/
theorem separated_reads_rows_unless_idle (verbosity : Verbosity) (rules : ν → Parser Value)
    (rounds : Nat) (item separator : Grammar ν) (input : Stream) :
    let meaning := Grammar.parser verbosity rules rounds
    let itemParser := meaning item
    let separatorParser := meaning separator
    let once := meaning (item.separatedOnce separator)
    let row := meaning (item.separated separator)
    (∀ error, ¬ row.Fails input error) ∧
    (∀ error, itemParser.Fails input error → row.Succeeds input (.list []) input) ∧
    ∀ first middle, itemParser.Succeeds input first middle →
      ((row input).outcome = (once input).outcome ↔
        ∀ others start, Rounds itemParser separatorParser middle others start →
          ¬ Idles itemParser separatorParser start) ∧
      ∀ others start, Rounds itemParser separatorParser middle others start →
        Idles itemParser separatorParser start →
          once.Fails input (.zeroWidth "many" (some start.length)) ∧
            row.Succeeds input (.list []) input := by
  intro meaning itemParser separatorParser once row
  have emptied : ∀ error, once.Fails input error → row.Succeeds input (.list []) input :=
    fun error failed => succeeds_separated_iff.mpr (Or.inr ⟨⟨error, failed⟩, rfl, rfl⟩)
  refine ⟨fun _ => not_fails_separated, ?_, ?_⟩
  · intro error failed
    exact emptied error (fails_separatedOnce_iff.mpr (Or.inl failed))
  · intro first middle matched
    have idled : ∀ others start, Rounds itemParser separatorParser middle others start →
        Idles itemParser separatorParser start →
          once.Fails input (.zeroWidth "many" (some start.length)) := by
      intro others start read idles
      exact fails_separatedOnce_iff.mpr (Or.inr ⟨first, middle, others, start, matched, read,
        idles, rfl⟩)
    refine ⟨outcome_separated_eq_iff.trans ⟨?_, ?_⟩, ?_⟩
    · intro neverFails others start read idles
      exact neverFails _ (idled others start read idles)
    · intro moves error failed
      rcases fails_separatedOnce_iff.mp failed with failed | failed
      · exact matched.not_fails failed
      · rcases failed with ⟨_, _, others, start, other, read, idles, _⟩
        have same := (matched.unique other).2
        subst same
        exact moves others start read idles
    · intro others start read idles
      have failed := idled others start read idles
      exact ⟨failed, emptied _ failed⟩

theorem separated_gives_up_two_items :
    let meaning := Grammar.parser .warning (fun _ : Unit => Parser.fail "") 0
    let item := (Scanner.exactCharacter 'a').optional
    let separator := Grammar.pure .nothing
    let input := Stream.text ['a', 'a', 'b']
    (meaning item).Succeeds input (.text "a") (.text ['a', 'b']) ∧
      Rounds (meaning item) (meaning separator) (.text ['a', 'b']) [.text "a"] (.text ['b']) ∧
      Idles (meaning item) (meaning separator) (.text ['b']) ∧
      (meaning (item.separated separator)).Succeeds input (.list []) input := by
  intro meaning item separator input
  have matched : (meaning item).Succeeds input (.text "a") (.text ['a', 'b']) := rfl
  have read : Rounds (meaning item) (meaning separator) (.text ['a', 'b']) [.text "a"]
      (.text ['b']) := .round rfl rfl (by decide) (.none _)
  have idles : Idles (meaning item) (meaning separator) (.text ['b']) :=
    ⟨_, _, _, _, rfl, rfl, Nat.le_refl 1⟩
  have law := separated_reads_rows_unless_idle .warning (fun _ : Unit => Parser.fail "") 0 item
    separator input
  exact ⟨matched, read, idles, ((law.2.2 _ _ matched).2 _ _ read idles).2⟩

/-- With items and separators that may both be missing, a row whose first item is there comes out
empty, and nothing of the input is taken. -/
theorem first_item_is_given_up :
    let meaning := Grammar.parser .warning (fun _ : Unit => Parser.fail "") 0
    let item := (Scanner.exactCharacter 'a').optional
    let separator := (Scanner.exactCharacter ',').optional
    let input := Stream.text ['a', 'b']
    item.Everywhere IsComposed ∧ separator.Everywhere IsComposed ∧
      (meaning item).Succeeds input (.text "a") (.text ['b']) ∧
      (meaning (item.separatedOnce separator)).Fails input (.zeroWidth "many" (some 1)) ∧
      (meaning (item.separated separator)).Succeeds input (.list []) input ∧
      (meaning (item.separated separator) input).outcome ≠
        (meaning (item.separatedOnce separator) input).outcome := by
  intro meaning item separator input
  have matched : (meaning item).Succeeds input (.text "a") (.text ['b']) := rfl
  have idles : Idles (meaning item) (meaning separator) (.text ['b']) :=
    ⟨_, _, _, _, rfl, rfl, Nat.le_refl 1⟩
  have failed : (meaning (item.separatedOnce separator)).Fails input
      (.zeroWidth "many" (some 1)) :=
    fails_separatedOnce_iff.mpr (Or.inr ⟨_, _, [], _, matched, .none _, idles, rfl⟩)
  have emptied : (meaning (item.separated separator)).Succeeds input (.list []) input :=
    succeeds_separated_iff.mpr (Or.inr ⟨⟨_, failed⟩, rfl, rfl⟩)
  refine ⟨⟨trivial, trivial, trivial⟩, ⟨trivial, trivial, trivial⟩, matched, failed, emptied, ?_⟩
  intro same
  exact not_fails_separated (same.trans failed)

end Grammar

end OrderedChoice
