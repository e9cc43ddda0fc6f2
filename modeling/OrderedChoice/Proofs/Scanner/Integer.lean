import OrderedChoice.Proofs.Parser.Progress
import OrderedChoice.Proofs.Parser.Sequence
import OrderedChoice.Proofs.Scanner.Digit

/-!
# The scanner for integers

The parser for integers tries the bases one after the other, the marked ones first.  It never
goes on to another base where an earlier one has a number to read, and yet it always reads the
longest number there is: a marked number and the zero of its mark are the only two that ever
stand in the same place.
-/

namespace OrderedChoice

namespace Scanner

variable {ν : Type} {verbosity : Verbosity} {rules : ν → Parser Value} {rounds : Nat}
  {base : Base} {characters : List Char} {value : Value} {rest : Stream} {error : ParseError}

/-! ## Marks -/

/-- On text the parser takes a mark of the base. -/
structure ReadsMarks (parser : Parser Value) (base : Base) : Prop where
  exists_succeeds_iff : ∀ {characters rest},
    (∃ value, parser.Succeeds (.text characters) value rest) ↔
      ∃ mark ∈ base.marks, ∃ after, characters = mark ++ after ∧ rest = .text after
  answers : ∀ characters, parser.Answers (.text characters)

/-- A base with one mark. -/
theorem readsMarks_literal {content : String} (only : base.marks = [content.toList]) :
    ReadsMarks ((literal content : Grammar ν).parser verbosity rules rounds) base := by
  constructor
  · intro characters rest
    simp only [succeeds_literal_iff, only, List.mem_singleton, exists_eq_left]
    constructor
    · intro success
      rcases success with ⟨_, after, split, _, left⟩
      exact ⟨after, split, left⟩
    · intro success
      rcases success with ⟨after, split, left⟩
      exact ⟨_, after, split, rfl, left⟩
  · exact fun characters => answers_literal content _

theorem readsMarks_hexadecimal :
    ReadsMarks (((literal "0x").orElse (literal "0X") : Grammar ν).parser verbosity rules rounds)
      .hexadecimal := by
  constructor
  · intro characters rest
    constructor
    · intro success
      rcases success with ⟨value, success⟩
      rcases Parser.succeeds_orElse_iff.mp success with success | ⟨_, success⟩
      · rcases succeeds_literal_iff.mp success with ⟨after, split, _, left⟩
        exact ⟨"0x".toList, by decide, after, split, left⟩
      · rcases succeeds_literal_iff.mp success with ⟨after, split, _, left⟩
        exact ⟨"0X".toList, by decide, after, split, left⟩
    · intro success
      rcases success with ⟨mark, isMark, after, rfl, rfl⟩
      have one : mark = "0x".toList ∨ mark = "0X".toList := by
        simpa [Base.marks, Base.letters] using isMark
      rcases one with rfl | rfl
      · exact ⟨_, Parser.succeeds_orElse_iff.mpr
          (Or.inl (succeeds_literal_iff.mpr ⟨after, rfl, rfl, rfl⟩))⟩
      · have other : ¬ "0x".toList <+: "0X".toList ++ after := by
          simp
        exact ⟨_, Parser.succeeds_orElse_iff.mpr
          (Or.inr ⟨fails_literal other, succeeds_literal_iff.mpr ⟨after, rfl, rfl, rfl⟩⟩)⟩
  · intro characters
    exact Run.isCompositional_returns.orElse (answers_literal "0x" _)
      fun _ => answers_literal "0X" _

/-! ## Numbers of one base -/

/-- The parser for the numbers of the base. -/
def Base.grammar : Base → Grammar ν
  | .hexadecimal => hexadecimalNumeral
  | .octal => octalNumeral
  | .binary => binaryNumeral
  | .decimal => decimalNumeral

/-- On text the parser takes a number of the base, with all the digits that it has. -/
structure ReadsNumbers (parser : Parser Value) (base : Base) : Prop where
  succeeds_iff : ∀ {characters value rest}, parser.Succeeds (.text characters) value rest ↔
    ∃ mark numerals after, base.Writes mark numerals ∧
      (∀ first, after.head? = some first → first ∉ base.digits) ∧
      characters = mark ++ numerals ++ after ∧
      value = .int (base.number numerals) ∧ rest = .text after
  answers : ∀ characters, parser.Answers (.text characters)

/-- Digits without a mark in front of them. -/
theorem succeeds_digits_iff (base : Base) :
    ((base.digit.atLeastOnce.map (numeral base.radix) : Grammar ν).parser verbosity rules
        rounds).Succeeds (.text characters) value rest ↔
      ∃ numerals after, numerals ≠ [] ∧ (∀ digit ∈ numerals, digit ∈ base.digits) ∧
        (∀ first, after.head? = some first → first ∉ base.digits) ∧
        characters = numerals ++ after ∧ value = .int (base.number numerals) ∧
        rest = .text after := by
  refine (readsDigits_base base).succeeds_numeral_iff.trans ?_
  simp only [decide_eq_true_eq, decide_eq_false_iff_not, Base.ofDigits_eq_number]

theorem readsNumbers_marked (base : Base) {mark : Grammar ν}
    (marks : ReadsMarks (mark.parser verbosity rules rounds) base) :
    ReadsNumbers (((mark.seqRight base.digit.atLeastOnce).map (numeral base.radix)).parser
      verbosity rules rounds) base := by
  have regrouped : ((mark.seqRight base.digit.atLeastOnce).map (numeral base.radix)).parser
      verbosity rules rounds =
        (mark.seqRight (base.digit.atLeastOnce.map (numeral base.radix))).parser verbosity rules
          rounds :=
    Parser.onSuccess_assoc _ _ _
  rw [regrouped]
  constructor
  · intro characters value rest
    refine Parser.succeeds_seqRight_iff.trans ?_
    constructor
    · intro success
      rcases success with ⟨marked, middle, started, followed⟩
      rcases marks.exists_succeeds_iff.mp ⟨marked, started⟩ with ⟨mark, isMark, more, rfl, rfl⟩
      rcases (succeeds_digits_iff base).mp followed with
        ⟨numerals, after, nonempty, areDigits, ends, rfl, rfl, rfl⟩
      exact ⟨mark, numerals, after, ⟨isMark, nonempty, areDigits⟩, ends,
        (List.append_assoc _ _ _).symm, rfl, rfl⟩
    · intro success
      rcases success with ⟨mark, numerals, after, writes, ends, rfl, rfl, rfl⟩
      rcases marks.exists_succeeds_iff.mpr
        ⟨mark, writes.isMark, numerals ++ after, List.append_assoc _ _ _, rfl⟩ with
        ⟨marked, started⟩
      have followed : ((base.digit.atLeastOnce.map (numeral base.radix) : Grammar ν).parser
          verbosity rules rounds).Succeeds (.text (numerals ++ after))
            (.int (base.number numerals)) (.text after) :=
        (succeeds_digits_iff base).mpr
          ⟨numerals, after, writes.nonempty, writes.areDigits, ends, rfl, rfl, rfl⟩
      exact ⟨marked, _, started, followed⟩
  · intro characters
    refine Run.isCompositional_returns.seqRight (marks.answers characters) ?_
    intro marked middle started
    rcases marks.exists_succeeds_iff.mp ⟨marked, started⟩ with ⟨_, _, more, _, rfl⟩
    exact (readsDigits_base base).answers_numeral more

theorem readsNumbers_decimal :
    ReadsNumbers ((decimalNumeral : Grammar ν).parser verbosity rules rounds) .decimal := by
  constructor
  · intro characters value rest
    refine (succeeds_digits_iff .decimal).trans ?_
    constructor
    · intro success
      rcases success with ⟨numerals, after, nonempty, areDigits, ends, split, read, left⟩
      exact ⟨[], numerals, after, ⟨List.mem_singleton_self [], nonempty, areDigits⟩, ends, split,
        read, left⟩
    · intro success
      rcases success with ⟨mark, numerals, after, writes, ends, split, read, left⟩
      rw [List.mem_singleton.mp writes.isMark] at split
      exact ⟨numerals, after, writes.nonempty, writes.areDigits, ends, split, read, left⟩
  · exact answers_decimalNumeral

/-- The parser for the numbers of a base reads them and nothing else. -/
theorem readsNumbers_base (base : Base) :
    ReadsNumbers ((base.grammar : Grammar ν).parser verbosity rules rounds) base := by
  cases base with
  | hexadecimal => exact readsNumbers_marked .hexadecimal readsMarks_hexadecimal
  | octal =>
      have only : Base.octal.marks = ["0o".toList] := by decide
      exact readsNumbers_marked .octal (readsMarks_literal only)
  | binary =>
      have only : Base.binary.marks = ["0b".toList] := by decide
      exact readsNumbers_marked .binary (readsMarks_literal only)
  | decimal => exact readsNumbers_decimal

/-- The parser for the numbers of a base fails where none stands. -/
theorem ReadsNumbers.exists_fails_iff {parser : Parser Value} (reads : ReadsNumbers parser base) :
    (∃ error, parser.Fails (.text characters) error) ↔ ¬ base.Starts characters := by
  constructor
  · intro failure starts
    rcases failure with ⟨error, failed⟩
    rcases starts.exists_writes with ⟨mark, numerals, after, writes, ends, split⟩
    have success := reads.succeeds_iff.mpr ⟨mark, numerals, after, writes, ends, split, rfl, rfl⟩
    exact success.not_fails failed
  · intro none
    rcases (reads.answers characters).cases with ⟨value, rest, success⟩ | failed
    · rcases reads.succeeds_iff.mp success with ⟨mark, numerals, after, writes, _, rfl, _⟩
      exact absurd ⟨mark, numerals, writes, List.prefix_append _ _⟩ none
    · exact failed

/-! ## The longest number of all -/

theorem fails_digit_iff :
    ((digit : Grammar ν).parser verbosity rules rounds).Fails (.text characters) error ↔
      (∀ first, characters.head? = some first → first ∉ Base.decimal.digits) ∧
        error = .unexpected (.text "digit") (.text (String.ofList (characters.take 1)))
          (some characters.length) := by
  have reads : ReadsDigits ((digit : Grammar ν).parser verbosity rules rounds)
      (fun character => decide (character ∈ Base.decimal.digits)) _ :=
    readsDigits_base .decimal
  have report : ∀ {error}, ((digit : Grammar ν).parser verbosity rules rounds).Fails
      (.text characters) error →
        error = .unexpected (.text "digit") (.text (String.ofList (characters.take 1)))
          (some characters.length) := by
    intro error failed
    rcases Parser.fails_token_iff.mp failed with ⟨none, rfl⟩ | ⟨element, head, _, rfl⟩
    · cases characters with
      | nil => rfl
      | cons first after => cases none
    · cases characters with
      | nil => cases head
      | cons first after =>
          cases head
          rfl
  constructor
  · intro failed
    have other := reads.fails_iff.mp ⟨error, failed⟩
    exact ⟨fun first head => of_decide_eq_false (other first head), report failed⟩
  · intro failure
    rcases failure with ⟨other, rfl⟩
    rcases reads.fails fun first head => decide_eq_false (other first head) with ⟨error, failed⟩
    rw [← report failed]
    exact failed

/-- Where no decimal digit stands, the last base to be tried reports that it misses one. -/
theorem fails_decimalNumeral_iff :
    ((decimalNumeral : Grammar ν).parser verbosity rules rounds).Fails (.text characters) error ↔
      (∀ first, characters.head? = some first → first ∉ Base.decimal.digits) ∧
        error = .unexpected (.text "digit") (.text (String.ofList (characters.take 1)))
          (some characters.length) := by
  have progresses : ((digit : Grammar ν).parser verbosity rules rounds).Progresses :=
    Parser.progresses_token _ _ _
  have onlyDigit : ((decimalNumeral : Grammar ν).parser verbosity rules rounds).Fails
      (.text characters) error ↔
        ((digit : Grammar ν).parser verbosity rules rounds).Fails (.text characters) error := by
    refine Parser.fails_mapM_iff.trans (Grammar.fails_atLeastOnce_iff.trans ?_)
    constructor
    · intro failure
      rcases failure with failed | ⟨_, current, _, stalls, _⟩
      · exact failed
      · exact absurd stalls (progresses.not_stalls current)
    · exact Or.inl
  rw [onlyDigit]
  exact fails_digit_iff

/-- The parsers for marked numbers all fail where there is no marked number. -/
theorem exists_fails_marked_iff :
    (∃ error, (((hexadecimalNumeral.orElse octalNumeral).orElse binaryNumeral :
        Grammar ν).parser verbosity rules rounds).Fails (.text characters) error) ↔
      ∀ base : Base, base ≠ .decimal → ¬ base.Starts characters := by
  constructor
  · intro failure base marked
    rcases failure with ⟨error, failed⟩
    rcases Parser.fails_orElse_iff.mp failed with ⟨⟨earlier, others⟩, binary⟩
    rcases Parser.fails_orElse_iff.mp others with ⟨hexadecimal, octal⟩
    cases base with
    | hexadecimal => exact (readsNumbers_base .hexadecimal).exists_fails_iff.mp hexadecimal
    | octal => exact (readsNumbers_base .octal).exists_fails_iff.mp ⟨earlier, octal⟩
    | binary => exact (readsNumbers_base .binary).exists_fails_iff.mp ⟨error, binary⟩
    | decimal => exact absurd rfl marked
  · intro none
    have failed : ∀ base : Base, base ≠ .decimal →
        ∃ error, ((base.grammar : Grammar ν).parser verbosity rules rounds).Fails
          (.text characters) error :=
      fun base marked => (readsNumbers_base base).exists_fails_iff.mpr (none base marked)
    exact Parser.exists_fails_orElse
      (Parser.exists_fails_orElse (failed .hexadecimal nofun) (failed .octal nofun))
      (failed .binary nofun)

theorem answers_integer (characters : List Char) :
    ((integer : Grammar ν).parser verbosity rules rounds).Answers (.text characters) := by
  have composes := Run.isCompositional_returns
  have answers : ∀ base : Base, ((base.grammar : Grammar ν).parser verbosity rules rounds).Answers
      (.text characters) :=
    fun base => (readsNumbers_base base).answers characters
  exact composes.orElse (composes.orElse (composes.orElse (answers .hexadecimal)
    fun _ => answers .octal) fun _ => answers .binary) fun _ => answers .decimal

theorem fails_integer_iff :
    ((integer : Grammar ν).parser verbosity rules rounds).Fails (.text characters) error ↔
      (∀ first, characters.head? = some first → first ∉ Base.decimal.digits) ∧
        error = .unexpected (.text "digit") (.text (String.ofList (characters.take 1)))
          (some characters.length) := by
  refine (Parser.fails_orElse_iff.trans ⟨And.right, fun failed => ⟨?_, failed⟩⟩).trans
    fails_decimalNumeral_iff
  refine exists_fails_marked_iff.mpr fun base _ starts => ?_
  rcases starts.exists_digit with ⟨first, head, isDigit⟩
  exact (fails_decimalNumeral_iff.mp failed).1 first head isDigit

/-- Trying the bases in turn finds the longest number. -/
theorem beginsWithLongest_of_succeeds_integer
    (success : ((integer : Grammar ν).parser verbosity rules rounds).Succeeds (.text characters)
      value rest) :
    ∃ denoted after, Base.BeginsWithLongest characters denoted after ∧ value = .int denoted ∧
      rest = .text after := by
  have found : ∀ base : Base,
      ((base.grammar : Grammar ν).parser verbosity rules rounds).Succeeds (.text characters) value
        rest →
      (base = .decimal → ∀ other : Base, other ≠ .decimal → ¬ other.Starts characters) →
      ∃ denoted after, Base.BeginsWithLongest characters denoted after ∧ value = .int denoted ∧
        rest = .text after := by
    intro base success unmarked
    rcases (readsNumbers_base base).succeeds_iff.mp success with
      ⟨mark, numerals, after, writes, ends, rfl, read, left⟩
    have isLongest := writes.isLongest ends unmarked
    exact ⟨_, after, ⟨base, mark, numerals, writes, rfl, isLongest, rfl⟩, read, left⟩
  rcases Parser.succeeds_orElse_iff.mp success with success | ⟨failed, decimal⟩
  · rcases Parser.succeeds_orElse_iff.mp success with success | ⟨_, binary⟩
    · rcases Parser.succeeds_orElse_iff.mp success with hexadecimal | ⟨_, octal⟩
      · exact found .hexadecimal hexadecimal nofun
      · exact found .octal octal nofun
    · exact found .binary binary nofun
  · exact found .decimal decimal fun _ => exists_fails_marked_iff.mp failed

theorem succeeds_integer_iff :
    ((integer : Grammar ν).parser verbosity rules rounds).Succeeds (.text characters) value
        rest ↔
      ∃ denoted after, Base.BeginsWithLongest characters denoted after ∧ value = .int denoted ∧
        rest = .text after := by
  constructor
  · exact beginsWithLongest_of_succeeds_integer
  · intro longest
    rcases longest with ⟨denoted, after, begins, rfl, rfl⟩
    rcases (answers_integer characters).cases with ⟨value, rest, success⟩ | ⟨error, failed⟩
    · rcases beginsWithLongest_of_succeeds_integer success with ⟨found, left, foundBegins, rfl, rfl⟩
      rcases begins.unique foundBegins with ⟨rfl, rfl⟩
      exact success
    · rcases begins.exists_starts with ⟨base, starts⟩
      rcases starts.exists_digit with ⟨first, head, isDigit⟩
      exact absurd isDigit ((fails_integer_iff.mp failed).1 first head)

/-- Only the zero is read where a mark has no digit of its base behind it. -/
theorem succeeds_integer_of_no_digits {letter : Char} {after : List Char}
    (named : letter ∈ base.letters)
    (ends : ∀ first, after.head? = some first → first ∉ base.digits) :
    ((integer : Grammar ν).parser verbosity rules rounds).Succeeds (.text ('0' :: letter :: after))
      (.int 0) (.text (letter :: after)) := by
  have zero : Base.Writes .decimal [] ['0'] :=
    ⟨List.mem_singleton_self [], List.cons_ne_nil _ _,
      List.forall_mem_singleton.mpr (Base.zero_mem_digits .decimal)⟩
  have isLongest : Base.IsLongest ([] ++ ['0']) ([] ++ ['0'] ++ letter :: after) := by
    refine zero.isLongest ?_ ?_
    · intro first head
      cases head
      exact Base.letter_not_mem_digits named
    · exact fun _ other marked => Base.not_starts_of_mem_letters named ends marked
  have counts : 0 = Base.decimal.number ['0'] := by decide
  have begins : Base.BeginsWithLongest ('0' :: letter :: after) 0 (letter :: after) :=
    ⟨.decimal, [], ['0'], zero, rfl, isLongest, counts⟩
  exact succeeds_integer_iff.mpr ⟨0, letter :: after, begins, rfl, rfl⟩

/-- The parser for integers answers on every text.  It fails exactly where no decimal digit stands,
and reports that it misses one there.  Everywhere else it reads the longest number at the front
of the text, so a mark without a digit of its base behind it is left alone. -/
theorem integer_reads_longest (verbosity : Verbosity) (rules : ν → Parser Value) (rounds : Nat)
    (characters : List Char) :
    let parser := (integer : Grammar ν).parser verbosity rules rounds
    parser.Answers (.text characters) ∧
      (∀ error, parser.Fails (.text characters) error ↔
        (∀ first, characters.head? = some first → first ∉ Base.decimal.digits) ∧
          error = .unexpected (.text "digit") (.text (String.ofList (characters.take 1)))
            (some characters.length)) ∧
      (∀ value rest, parser.Succeeds (.text characters) value rest ↔
        ∃ denoted after, Base.BeginsWithLongest characters denoted after ∧
          value = .int denoted ∧ rest = .text after) ∧
      (∀ base : Base, ∀ letter ∈ base.letters, ∀ after, characters = '0' :: letter :: after →
        (∀ first, after.head? = some first → first ∉ base.digits) →
        parser.Succeeds (.text characters) (.int 0) (.text (letter :: after))) := by
  intro parser
  refine ⟨answers_integer characters, fun _ => fails_integer_iff,
    fun _ _ => succeeds_integer_iff, ?_⟩
  intro base letter named after isMark ends
  rw [isMark]
  exact succeeds_integer_of_no_digits named ends

/-- No binary digit stands behind this mark. -/
theorem integer_leaves_mark :
    ((integer : Grammar Unit).parser .warning (fun _ => .fail "") 0).Succeeds
      (.text ['0', 'b', '2']) (.int 0) (.text ['b', '2']) := by
  have named : 'b' ∈ Base.binary.letters := List.mem_singleton_self 'b'
  have ends : ∀ first, ['2'].head? = some first → first ∉ Base.binary.digits := by
    intro first head
    cases head
    decide
  have law := integer_reads_longest .warning (fun _ : Unit => .fail "") 0 ['0', 'b', '2']
  exact law.2.2.2 .binary 'b' named ['2'] rfl ends

end Scanner

end OrderedChoice
