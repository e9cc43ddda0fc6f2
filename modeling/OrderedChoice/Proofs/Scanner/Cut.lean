import Mathlib.Data.Bool.AllAny
import OrderedChoice.Proofs.Scanner.Base
import OrderedChoice.Proofs.Scanner.Text

/-!
# How text is cut

The parsers for ASCII text, for white space and for text of a given length cut what they read in
two and lose nothing of it.  The first two take as much as there is: all characters of ASCII up to
the first other one, and all pieces of white space up to where none begins.  The third takes its
number of characters or fails at the end of the text, whatever the characters are.
-/

namespace OrderedChoice

namespace Scanner

variable {ν : Type} {verbosity : Verbosity} {rules : ν → Parser Value} {rounds : Nat}
  {characters taken after : List Char} {count : Nat} {value : Value} {values : List Value}
  {rest : Stream} {error : ParseError}

/-! ## Joining -/

theorem join_map_ofList (pieces : List (List Char)) :
    String.join (pieces.map String.ofList) = String.ofList pieces.flatten := by
  induction pieces with
  | nil => rfl
  | cons piece pieces later =>
      rw [List.map_cons, String.join_cons, later, List.flatten_cons, String.ofList_append]

/-- Joining the texts of pieces gives the text of all the pieces. -/
theorem join_map_textOf (pieces : List (List Char)) :
    join (.list (pieces.map textOf)) = .ok (textOf pieces.flatten) := by
  have contents : pieces.map textOf = (pieces.map String.ofList).map .text := by
    rw [List.map_map]
    rfl
  rw [join, contents, texts_map, textOf, ← join_map_ofList]
  rfl

theorem join_textOf_singles (characters : List Char) :
    join (.list ((singles characters).map textOf)) = .ok (textOf characters) := by
  rw [join_map_textOf, flatten_singles]

theorem map_ofChar_eq (characters : List Char) :
    characters.map Value.ofChar = (singles characters).map textOf := by
  rw [singles, List.map_map]
  exact List.map_congr_left fun character _ => ofChar_eq_textOf character

/-! ## A given number of characters -/

theorem succeeds_exactly_anyCharacter_iff :
    (((anyCharacter : Grammar ν).parser verbosity rules rounds).exactly count).Succeeds
        (.text characters) values rest ↔
      count ≤ characters.length ∧ values = (characters.take count).map Value.ofChar ∧
        rest = .text (characters.drop count) := by
  induction count generalizing characters values with
  | zero =>
      rw [Parser.succeeds_exactly_zero_iff]
      simp
  | succ count later =>
      rw [Parser.succeeds_exactly_succ_iff]
      constructor
      · intro success
        rcases success with ⟨value, more, middle, rfl, started, followed⟩
        rcases succeeds_anyCharacter_iff.mp started with ⟨first, others, rfl, rfl, rfl⟩
        rcases later.mp followed with ⟨enough, rfl, rfl⟩
        exact ⟨Nat.succ_le_succ enough, rfl, rfl⟩
      · intro described
        rcases described with ⟨enough, rfl, rfl⟩
        cases characters with
        | nil => exact absurd enough (Nat.not_succ_le_zero count)
        | cons first others =>
            exact ⟨Value.ofChar first, _, .text others, rfl,
              succeeds_anyCharacter_iff.mpr ⟨first, others, rfl, rfl, rfl⟩,
              later.mpr ⟨Nat.le_of_succ_le_succ enough, rfl, rfl⟩⟩

/-- Too short a text is read to its end, where a character is missed. -/
theorem fails_exactly_anyCharacter_iff :
    (((anyCharacter : Grammar ν).parser verbosity rules rounds).exactly count).Fails
        (.text characters) error ↔
      characters.length < count ∧ error = .unexpected (.text "char") (.text "") (some 0) := by
  induction count generalizing characters with
  | zero =>
      constructor
      · intro failed
        exact absurd failed Parser.not_fails_pure
      · intro described
        exact absurd described.1 (Nat.not_lt_zero _)
  | succ count later =>
      rw [Parser.fails_exactly_succ_iff, fails_anyCharacter_iff]
      constructor
      · intro failure
        rcases failure with ⟨rfl, rfl⟩ | ⟨value, middle, started, failed⟩
        · exact ⟨Nat.succ_pos count, rfl⟩
        · rcases succeeds_anyCharacter_iff.mp started with ⟨first, others, rfl, rfl, rfl⟩
          rcases later.mp failed with ⟨short, rfl⟩
          exact ⟨Nat.succ_lt_succ short, rfl⟩
      · intro described
        rcases described with ⟨short, rfl⟩
        cases characters with
        | nil => exact Or.inl ⟨rfl, rfl⟩
        | cons first others =>
            exact Or.inr ⟨_, _, succeeds_anyCharacter_iff.mpr ⟨first, others, rfl, rfl, rfl⟩,
              later.mpr ⟨Nat.lt_of_succ_lt_succ short, rfl⟩⟩

theorem succeeds_textOfLength_iff :
    ((textOfLength count : Grammar ν).parser verbosity rules rounds).Succeeds (.text characters)
        value rest ↔
      count ≤ characters.length ∧ value = textOf (characters.take count) ∧
        rest = .text (characters.drop count) := by
  refine Parser.succeeds_mapM_iff.trans ?_
  constructor
  · intro success
    rcases success with ⟨_, counted, joined⟩
    rcases Parser.succeeds_map_iff.mp counted with ⟨values, repeated, rfl⟩
    rcases succeeds_exactly_anyCharacter_iff.mp repeated with ⟨enough, rfl, left⟩
    rw [map_ofChar_eq, join_textOf_singles] at joined
    cases joined
    exact ⟨enough, rfl, left⟩
  · intro described
    rcases described with ⟨enough, rfl, left⟩
    refine ⟨_, Parser.succeeds_map_iff.mpr
      ⟨_, succeeds_exactly_anyCharacter_iff.mpr ⟨enough, rfl, left⟩, rfl⟩, ?_⟩
    rw [map_ofChar_eq, join_textOf_singles]

theorem fails_textOfLength_iff :
    ((textOfLength count : Grammar ν).parser verbosity rules rounds).Fails (.text characters)
        error ↔
      characters.length < count ∧ error = .unexpected (.text "char") (.text "") (some 0) :=
  Parser.fails_mapM_iff.trans (Parser.fails_map_iff.trans fails_exactly_anyCharacter_iff)

theorem answers_textOfLength (count : Nat) (characters : List Char) :
    ((textOfLength count : Grammar ν).parser verbosity rules rounds).Answers (.text characters) := by
  rcases Nat.lt_or_ge characters.length count with short | enough
  · exact (fails_textOfLength_iff.mpr ⟨short, rfl⟩).answers
  · exact (succeeds_textOfLength_iff.mpr ⟨enough, rfl, rfl⟩).answers

/-! ## ASCII -/

/-- The character is one of the first hundred and twenty-eight. -/
def IsAscii (character : Char) : Prop := character.toNat < 128

instance : DecidablePred IsAscii := fun character =>
  inferInstanceAs (Decidable (character.toNat < 128))

/-- The run stands in front, the condition holds all along it, and no longer one is there. -/
structure IsLongestRun (condition : Char → Prop) (run characters : List Char) : Prop where
  holds : ∀ character ∈ run, condition character
  starts : run <+: characters
  longest : ∀ other, (∀ character ∈ other, condition character) → other <+: characters →
    other.length ≤ run.length

/-- A run is the longest when the condition does not hold right behind it, and only then. -/
theorem isLongestRun_append_iff {condition : Char → Prop} :
    IsLongestRun condition taken (taken ++ after) ↔
      (∀ character ∈ taken, condition character) ∧
        ∀ first, after.head? = some first → ¬ condition first := by
  constructor
  · intro run
    refine ⟨run.holds, ?_⟩
    intro first head condition
    rcases List.head?_eq_some_iff.mp head with ⟨others, rfl⟩
    have more : (taken ++ [first]).length ≤ taken.length := by
      refine run.longest (taken ++ [first]) ?_ ⟨others, by simp⟩
      exact List.forall_mem_append.mpr ⟨run.holds, List.forall_mem_singleton.mpr condition⟩
    rw [List.length_append, List.length_singleton] at more
    exact Nat.not_succ_le_self _ more
  · intro described
    rcases described with ⟨holds, ends⟩
    exact ⟨holds, List.prefix_append taken after,
      fun _ others starts => Base.length_le_of_prefix_append others starts ends⟩

theorem check_isAscii_ofChar (character : Char) :
    (do if isAscii (← Scanner.characters (Value.ofChar character)) then return none
        else return some (.unexpected (.text "ascii") (Value.ofChar character) none) :
      Except Fault (Option ParseError)) =
      .ok (if IsAscii character then none
        else some (.unexpected (.text "ascii") (Value.ofChar character) none)) := by
  have same : isAscii [character] = decide (IsAscii character) := Bool.and_true _
  rw [characters_ofChar]
  change (if isAscii [character] then Except.ok none else Except.ok (some _)) = _
  rw [same, apply_ite Except.ok]
  simp only [decide_eq_true_eq]

theorem readsPieces_asciiCharacter :
    ReadsPieces ((asciiCharacter : Grammar ν).parser verbosity rules rounds) (IsSingle IsAscii)
      textOf where
  nonempty := IsSingle.nonempty
  succeeds_iff := by
    intro characters value rest
    refine Parser.succeeds_filter_iff.trans ?_
    constructor
    · intro success
      rcases success with ⟨success, checked⟩
      rcases succeeds_anyCharacter_iff.mp success with ⟨first, after, rfl, rfl, rfl⟩
      rw [check_isAscii_ofChar] at checked
      by_cases ascii : IsAscii first
      · exact ⟨[first], after, ⟨first, ascii, rfl⟩, rfl, ofChar_eq_textOf first, rfl⟩
      · rw [if_neg ascii] at checked
        cases checked
    · intro success
      rcases success with ⟨_, after, ⟨first, ascii, rfl⟩, rfl, rfl, rfl⟩
      rw [← ofChar_eq_textOf, check_isAscii_ofChar, if_pos ascii]
      exact ⟨succeeds_anyCharacter_iff.mpr ⟨first, after, rfl, rfl, rfl⟩, rfl⟩
  fails := by
    intro characters none
    cases characters with
    | nil =>
        exact ⟨_, Parser.fails_filter_iff.mpr (Or.inl (fails_anyCharacter_iff.mpr ⟨rfl, rfl⟩))⟩
    | cons first after =>
        have other : ¬ IsAscii first := not_isSingle_prefix_iff.mp none first rfl
        have rejected := (check_isAscii_ofChar first).trans (congrArg Except.ok (if_neg other))
        exact ⟨_, Parser.fails_filter_iff.mpr (Or.inr ⟨_, _, _,
          succeeds_anyCharacter_iff.mpr ⟨first, after, rfl, rfl, rfl⟩, rejected, rfl⟩)⟩

/-- All that is ASCII is taken as one text. -/
theorem succeeds_asciiText_iff :
    ((asciiText : Grammar ν).parser verbosity rules rounds).Succeeds (.text characters) value rest ↔
      ∃ taken after, taken ≠ [] ∧ characters = taken ++ after ∧
        IsLongestRun IsAscii taken characters ∧ value = textOf taken ∧ rest = .text after := by
  refine Parser.succeeds_mapM_iff.trans ?_
  constructor
  · intro success
    rcases success with ⟨_, repeated, joined⟩
    rcases readsPieces_asciiCharacter.succeeds_atLeastOnce_isSingle_iff.mp repeated with
      ⟨taken, after, some, holds, ends, rfl, rfl, left⟩
    rw [join_textOf_singles] at joined
    cases joined
    exact ⟨taken, after, some, rfl, isLongestRun_append_iff.mpr ⟨holds, ends⟩, rfl, left⟩
  · intro described
    rcases described with ⟨taken, after, some, rfl, run, rfl, left⟩
    rcases isLongestRun_append_iff.mp run with ⟨holds, ends⟩
    exact ⟨_, readsPieces_asciiCharacter.succeeds_atLeastOnce_isSingle_iff.mpr
      ⟨taken, after, some, holds, ends, rfl, rfl, left⟩, join_textOf_singles taken⟩

theorem answers_asciiText (characters : List Char) :
    ((asciiText : Grammar ν).parser verbosity rules rounds).Answers (.text characters) := by
  refine Run.isCompositional_returns.mapM
    (readsPieces_asciiCharacter.answers_atLeastOnce characters) ?_
  intro value rest success
  rcases readsPieces_asciiCharacter.succeeds_atLeastOnce_iff.mp success with
    ⟨pieces, _, _, _, rfl, _⟩
  exact Run.returns_ofExcept ⟨_, join_map_textOf pieces⟩

theorem exists_succeeds_asciiText_iff :
    (∃ value rest, ((asciiText : Grammar ν).parser verbosity rules rounds).Succeeds
        (.text characters) value rest) ↔
      ∃ first, characters.head? = some first ∧ IsAscii first := by
  constructor
  · intro success
    rcases success with ⟨value, rest, success⟩
    rcases succeeds_asciiText_iff.mp success with ⟨taken, after, some, rfl, run, _, _⟩
    rcases List.exists_cons_of_ne_nil some with ⟨first, others, rfl⟩
    exact ⟨first, rfl, run.holds first List.mem_cons_self⟩
  · intro starts
    rcases starts with ⟨first, head, ascii⟩
    rcases List.head?_eq_some_iff.mp head with ⟨others, rfl⟩
    have piece : IsSingle IsAscii [first] := ⟨first, ascii, rfl⟩
    rcases readsPieces_asciiCharacter.exists_succeeds_atLeastOnce_iff.mpr
      ⟨[first], piece, List.prefix_append [first] others⟩ with ⟨value, rest, success⟩
    rcases readsPieces_asciiCharacter.succeeds_atLeastOnce_iff.mp success with
      ⟨pieces, _, _, _, rfl, _⟩
    exact ⟨_, rest, Parser.succeeds_mapM_iff.mpr ⟨_, success, join_map_textOf pieces⟩⟩

/-! ## White space -/

/-- Nothing that is white space begins with a carriage return but a line break. -/
theorem not_isBlank_prefix_carriageReturn (alone : characters.head? ≠ some '\n') :
    ∀ piece, IsBlank piece → ¬ piece <+: '\r' :: characters := by
  intro piece isBlank starts
  rcases starts with ⟨others, same⟩
  cases isBlank with
  | lineBreak =>
      cases same
      exact alone rfl
  | space => cases same
  | lineFeed => cases same
  | tab => cases same

/-- A carriage return alone stops the reading of white space. -/
theorem succeeds_blanks_carriageReturn {pieces : List (List Char)}
    (some : pieces ≠ []) (areBlanks : ∀ piece ∈ pieces, IsBlank piece)
    (alone : after.head? ≠ Option.some '\n') :
    ((blanks : Grammar ν).parser verbosity rules rounds).Succeeds
      (.text (pieces.flatten ++ '\r' :: after)) (.list (pieces.map textOf))
      (.text ('\r' :: after)) :=
  readsPieces_blank.succeeds_atLeastOnce_iff.mpr ⟨pieces, _, some,
    ⟨areBlanks, rfl, not_isBlank_prefix_carriageReturn alone⟩, rfl, rfl⟩

/-- A line break is one piece, wherever it stands in white space. -/
theorem succeeds_blanks_lineBreak {pieces : List (List Char)}
    (areBlanks : ∀ piece ∈ pieces, IsBlank piece) (after : List Char) :
    ∃ others rest, ((blanks : Grammar ν).parser verbosity rules rounds).Succeeds
      (.text (pieces.flatten ++ '\r' :: '\n' :: after))
      (.list ((pieces ++ ['\r', '\n'] :: others).map textOf)) rest := by
  have reads : ReadsPieces ((blank : Grammar ν).parser verbosity rules rounds) IsBlank textOf :=
    readsPieces_blank
  rcases reads.exists_isCut after with ⟨others, left, cut⟩
  refine ⟨others, .text left, reads.succeeds_atLeastOnce_iff.mpr ⟨_, left, by simp, ⟨?_, ?_,
    cut.ends⟩, rfl, rfl⟩⟩
  · exact List.forall_mem_append.mpr
      ⟨areBlanks, List.forall_mem_cons.mpr ⟨.lineBreak, cut.arePieces⟩⟩
  · rw [cut.split]
    simp

/-! ## All three -/

/-- The parsers for ASCII, for white space and for a number of characters answer on every text and
lose nothing of it.  ASCII is read where it begins the text, all of it up to the first other
character.  White space is read where a piece of it begins the text, as the row of its pieces up
to where none begins.  A carriage return alone stops it, and with a line feed it is one
piece.  A number of characters is read where there are as many, and the reading fails at the end
of the text otherwise. -/
theorem texts_are_cut_without_loss (verbosity : Verbosity) (rules : ν → Parser Value)
    (rounds : Nat) (characters : List Char) :
    let meaning := Grammar.parser verbosity rules rounds
    ((meaning asciiText).Answers (.text characters) ∧
      ((∃ value rest, (meaning asciiText).Succeeds (.text characters) value rest) ↔
        ∃ first, characters.head? = some first ∧ IsAscii first) ∧
      ∀ value rest, (meaning asciiText).Succeeds (.text characters) value rest ↔
        ∃ taken after, taken ≠ [] ∧ characters = taken ++ after ∧
          IsLongestRun IsAscii taken characters ∧ value = textOf taken ∧ rest = .text after) ∧
    ((meaning blanks).Answers (.text characters) ∧
      ((∃ value rest, (meaning blanks).Succeeds (.text characters) value rest) ↔
        ∃ piece, IsBlank piece ∧ piece <+: characters) ∧
      (∀ value rest, (meaning blanks).Succeeds (.text characters) value rest ↔
        ∃ pieces after, pieces ≠ [] ∧ IsCut IsBlank characters pieces after ∧
          value = .list (pieces.map textOf) ∧ rest = .text after) ∧
      (∀ value rest, (meaning blanks).Succeeds (.text characters) value rest →
        ∃ taken after, join value = .ok (textOf taken) ∧ rest = .text after ∧
          characters = taken ++ after) ∧
      (∀ pieces after, pieces ≠ [] → (∀ piece ∈ pieces, IsBlank piece) →
        after.head? ≠ some '\n' → characters = pieces.flatten ++ '\r' :: after →
        (meaning blanks).Succeeds (.text characters) (.list (pieces.map textOf))
          (.text ('\r' :: after))) ∧
      ∀ pieces after, (∀ piece ∈ pieces, IsBlank piece) →
        characters = pieces.flatten ++ '\r' :: '\n' :: after →
        ∃ others rest, (meaning blanks).Succeeds (.text characters)
          (.list ((pieces ++ ['\r', '\n'] :: others).map textOf)) rest) ∧
    ∀ count : Nat, ∃ counted : Grammar ν, textOfLength? (.int count) = .ok counted ∧
      (meaning counted).Answers (.text characters) ∧
      (∀ value rest, (meaning counted).Succeeds (.text characters) value rest ↔
        count ≤ characters.length ∧ value = textOf (characters.take count) ∧
          rest = .text (characters.drop count)) ∧
      (∀ error, (meaning counted).Fails (.text characters) error ↔
        characters.length < count ∧ error = .unexpected (.text "char") (.text "") (some 0)) := by
  have reads : ReadsPieces ((blank : Grammar ν).parser verbosity rules rounds) IsBlank textOf :=
    readsPieces_blank
  refine ⟨⟨answers_asciiText characters, exists_succeeds_asciiText_iff,
    fun _ _ => succeeds_asciiText_iff⟩, ⟨reads.answers_atLeastOnce characters,
    reads.exists_succeeds_atLeastOnce_iff, fun _ _ => reads.succeeds_atLeastOnce_iff,
    ?_, ?_, ?_⟩, ?_⟩
  · intro value rest success
    rcases reads.succeeds_atLeastOnce_iff.mp success with ⟨pieces, after, _, cut, rfl, left⟩
    exact ⟨pieces.flatten, after, join_map_textOf pieces, left, cut.split⟩
  · intro pieces after some areBlanks alone split
    subst split
    exact succeeds_blanks_carriageReturn some areBlanks alone
  · intro pieces after areBlanks split
    subst split
    exact succeeds_blanks_lineBreak areBlanks after
  · intro count
    refine ⟨textOfLength count, ?_, answers_textOfLength count characters,
      fun _ _ => succeeds_textOfLength_iff, fun _ => fails_textOfLength_iff⟩
    rfl

/-- Behind a space and a line break a carriage return alone is left.  All four characters are
ASCII, and the text does not have a sixth one. -/
theorem carriage_return_alone_is_left :
    let meaning := Grammar.parser .warning (fun _ : Unit => .fail "") 0
    let input : Stream := .text [' ', '\r', '\n', '\r', 'é']
    ((meaning blanks).Succeeds input (.list [.text " ", .text "\r\n"]) (.text ['\r', 'é']) ∧
      (meaning asciiText).Succeeds input (.text " \r\n\r") (.text ['é'])) ∧
    ∃ counted, textOfLength? (.int 6) = .ok counted ∧
      (meaning counted).Fails input (.unexpected (.text "char") (.text "") (some 0)) := by
  rcases texts_are_cut_without_loss .warning (fun _ : Unit => .fail "") 0
    [' ', '\r', '\n', '\r', 'é'] with ⟨⟨_, _, ascii⟩, ⟨_, _, _, _, alone, _⟩, counts⟩
  refine ⟨⟨?_, ?_⟩, ?_⟩
  · refine alone [[' '], ['\r', '\n']] ['é'] (List.cons_ne_nil _ _) ?_ (by decide) rfl
    exact List.forall_mem_cons.mpr ⟨.space, List.forall_mem_singleton.mpr .lineBreak⟩
  · have ends : ∀ first, ['é'].head? = some first → ¬ IsAscii first := by
      intro first head
      cases head
      decide
    have holds : ∀ character ∈ [' ', '\r', '\n', '\r'], IsAscii character :=
      List.all_iff_forall_prop.mp (by decide)
    exact (ascii _ _).mpr ⟨[' ', '\r', '\n', '\r'], ['é'], List.cons_ne_nil _ _, rfl,
      isLongestRun_append_iff.mpr ⟨holds, ends⟩, rfl, rfl⟩
  · rcases counts 6 with ⟨counted, read, _, _, failed⟩
    exact ⟨counted, read, (failed _).mpr ⟨by decide, rfl⟩⟩

end Scanner

end OrderedChoice
