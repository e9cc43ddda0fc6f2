import OrderedChoice.Proofs.Scanner.Piece
import OrderedChoice.Proofs.Stream.Prefix
import OrderedChoice.Scanner.Character

/-!
# What character parsers read

On text the parsers for characters take the characters they are named for off the front, and
a repeated parser for white space takes all the white space that there is.
-/

namespace OrderedChoice

namespace Scanner

variable {ν : Type} {verbosity : Verbosity} {rules : ν → Parser Value} {rounds : Nat}
  {characters : List Char} {rest : Stream} {value : Value} {error : ParseError}

/-! ## Single characters and literals -/

theorem succeeds_anyCharacter_iff :
    ((anyCharacter : Grammar ν).parser verbosity rules rounds).Succeeds (.text characters) value
        rest ↔
      ∃ first after, characters = first :: after ∧ value = Value.ofChar first ∧
        rest = .text after := by
  refine Parser.succeeds_token_iff.trans ?_
  constructor
  · intro success
    rcases success with ⟨element, head, selected, rfl⟩
    cases characters with
    | nil => cases head
    | cons first after =>
        cases head
        cases selected
        exact ⟨first, after, rfl, rfl, rfl⟩
  · intro success
    rcases success with ⟨first, after, rfl, rfl, rfl⟩
    exact ⟨Value.ofChar first, rfl, rfl, rfl⟩

/-- Only at the end of the text is there no character. -/
theorem fails_anyCharacter_iff :
    ((anyCharacter : Grammar ν).parser verbosity rules rounds).Fails (.text characters) error ↔
      characters = [] ∧ error = .unexpected (.text "char") (.text "") (some 0) := by
  refine Parser.fails_token_iff.trans ?_
  constructor
  · intro failure
    rcases failure with ⟨none, rfl⟩ | ⟨element, head, rejected, _⟩
    · cases characters with
      | nil => exact ⟨rfl, rfl⟩
      | cons first after => cases none
    · cases characters with
      | nil => cases head
      | cons first after =>
          cases head
          cases rejected
  · intro failure
    rcases failure with ⟨rfl, rfl⟩
    exact Or.inl ⟨rfl, rfl⟩

theorem succeeds_exactCharacter_iff {character : Char} :
    ((exactCharacter character : Grammar ν).parser verbosity rules rounds).Succeeds
        (.text characters) value rest ↔
      ∃ after, characters = character :: after ∧ value = Value.ofChar character ∧
        rest = .text after := by
  refine Parser.succeeds_token_iff.trans ?_
  constructor
  · intro success
    rcases success with ⟨element, head, selected, rfl⟩
    cases characters with
    | nil => cases head
    | cons first after =>
        cases head
        change Except.ok (if (Value.ofChar first == Value.ofChar character) then
          some (Value.ofChar first) else none) = _ at selected
        rw [Value.ofChar_beq] at selected
        by_cases same : first = character
        · subst same
          rw [beq_self_eq_true] at selected
          cases selected
          exact ⟨after, rfl, rfl, rfl⟩
        · rw [beq_false_of_ne same] at selected
          cases selected
  · intro success
    rcases success with ⟨after, rfl, rfl, rfl⟩
    refine ⟨Value.ofChar character, rfl, ?_, rfl⟩
    change Except.ok (if (Value.ofChar character == Value.ofChar character) then
      some (Value.ofChar character) else none) = _
    rw [Value.ofChar_beq, beq_self_eq_true]
    rfl

theorem fails_exactCharacter {character : Char} (other : characters.head? ≠ some character) :
    ∃ error, ((exactCharacter character : Grammar ν).parser verbosity rules rounds).Fails
      (.text characters) error := by
  cases characters with
  | nil => exact ⟨_, Parser.fails_token_iff.mpr (Or.inl ⟨rfl, rfl⟩)⟩
  | cons first after =>
      refine ⟨_, Parser.fails_token_iff.mpr (Or.inr ⟨Value.ofChar first, rfl, ?_, rfl⟩)⟩
      change Except.ok (if (Value.ofChar first == Value.ofChar character) then
        some (Value.ofChar first) else none) = _
      have different : first ≠ character := fun same => other (congrArg some same)
      rw [Value.ofChar_beq, beq_false_of_ne different]
      rfl

theorem answers_exactCharacter (character : Char) (input : Stream) :
    ((exactCharacter character : Grammar ν).parser verbosity rules rounds).Answers input :=
  Parser.answers_token (fun _ => ⟨_, rfl⟩) _ _ input

theorem succeeds_literal_iff {content : String} :
    ((literal content : Grammar ν).parser verbosity rules rounds).Succeeds
        (.text characters) value rest ↔
      ∃ after, characters = content.toList ++ after ∧
        value = .text (String.ofList content.toList) ∧ rest = .text after := by
  refine Parser.succeeds_tokens_iff.trans ?_
  change content.toList.isPrefixOf characters = true ∧
    value = .text (String.ofList (characters.take content.toList.length)) ∧
    rest = .text (characters.drop content.toList.length) ↔ _
  rw [List.isPrefixOf_iff_prefix]
  constructor
  · intro success
    rcases success with ⟨⟨after, rfl⟩, rfl, rfl⟩
    rw [List.take_left, List.drop_left]
    exact ⟨after, rfl, rfl, rfl⟩
  · intro success
    rcases success with ⟨after, rfl, rfl, rfl⟩
    rw [List.take_left, List.drop_left]
    exact ⟨⟨after, rfl⟩, rfl, rfl⟩

theorem fails_literal {content : String} (other : ¬ content.toList <+: characters) :
    ∃ error, ((literal content : Grammar ν).parser verbosity rules rounds).Fails
      (.text characters) error := by
  refine ⟨_, Parser.fails_tokens_iff.mpr ⟨?_, rfl⟩⟩
  change content.toList.isPrefixOf characters = false
  rw [← Bool.not_eq_true, List.isPrefixOf_iff_prefix]
  exact other

theorem answers_literal (content : String) (input : Stream) :
    ((literal content : Grammar ν).parser verbosity rules rounds).Answers input :=
  Run.isCompositional_returns.tokens _ _ _ input

/-! ## White space -/

/-- One piece of white space. -/
inductive IsBlank : List Char → Prop where
  | space : IsBlank [' ']
  | lineFeed : IsBlank ['\n']
  | tab : IsBlank ['\t']
  | lineBreak : IsBlank ['\r', '\n']

/-- Any number of pieces of white space. -/
inductive AreBlanks : List Char → Prop where
  | none : AreBlanks []
  | more {piece others : List Char} (first : IsBlank piece) (later : AreBlanks others) :
      AreBlanks (piece ++ others)

/-- The text does not begin with a character that white space may begin with. -/
def StartsDark (characters : List Char) : Prop :=
  ∀ first, characters.head? = some first → first ∉ [' ', '\n', '\t', '\r']

/-- What is taken as white space is one piece of it. -/
theorem succeeds_blank_iff :
    ((blank : Grammar ν).parser verbosity rules rounds).Succeeds (.text characters) value rest ↔
      ∃ piece after, IsBlank piece ∧ characters = piece ++ after ∧ value = textOf piece ∧
        rest = .text after := by
  constructor
  · intro success
    rcases Parser.succeeds_orElse_iff.mp success with success | ⟨_, success⟩
    · rcases Parser.succeeds_orElse_iff.mp success with success | ⟨_, success⟩
      · rcases Parser.succeeds_orElse_iff.mp success with success | ⟨_, success⟩
        · rcases succeeds_exactCharacter_iff.mp success with ⟨after, rfl, rfl, rfl⟩
          exact ⟨_, after, .space, rfl, rfl, rfl⟩
        · rcases succeeds_exactCharacter_iff.mp success with ⟨after, rfl, rfl, rfl⟩
          exact ⟨_, after, .lineFeed, rfl, rfl, rfl⟩
      · rcases succeeds_literal_iff.mp success with ⟨after, rfl, rfl, rfl⟩
        exact ⟨_, after, .lineBreak, rfl, rfl, rfl⟩
    · rcases succeeds_exactCharacter_iff.mp success with ⟨after, rfl, rfl, rfl⟩
      exact ⟨_, after, .tab, rfl, rfl, rfl⟩
  · intro success
    rcases success with ⟨piece, after, isBlank, rfl, rfl, rfl⟩
    cases isBlank <;> rfl

/-- White space is missed where no piece of it stands, which is also in front of a carriage return
without a line feed. -/
theorem fails_blank (none : ∀ piece, IsBlank piece → ¬ piece <+: characters) :
    ∃ error, ((blank : Grammar ν).parser verbosity rules rounds).Fails (.text characters)
      error := by
  have single : ∀ {character : Char}, IsBlank [character] →
      characters.head? ≠ some character := by
    intro character isBlank head
    rcases List.head?_eq_some_iff.mp head with ⟨after, rfl⟩
    exact none _ isBlank (List.prefix_append [character] after)
  exact Parser.exists_fails_orElse (Parser.exists_fails_orElse (Parser.exists_fails_orElse
    (fails_exactCharacter (single .space)) (fails_exactCharacter (single .lineFeed)))
    (fails_literal (none _ .lineBreak))) (fails_exactCharacter (single .tab))

theorem readsPieces_blank :
    ReadsPieces ((blank : Grammar ν).parser verbosity rules rounds) IsBlank textOf where
  nonempty := by
    intro piece isBlank
    cases isBlank <;> exact List.cons_ne_nil _ _
  succeeds_iff := succeeds_blank_iff
  fails := fails_blank

theorem StartsDark.fails_blank (dark : StartsDark characters) :
    ∃ error, ((blank : Grammar ν).parser verbosity rules rounds).Fails (.text characters)
      error := by
  refine Scanner.fails_blank ?_
  intro piece isBlank starts
  rcases starts with ⟨after, rfl⟩
  cases isBlank <;> exact dark _ rfl (by decide)

/-! ### All the white space there is -/

theorem areBlanks_iff {blanks : List Char} :
    AreBlanks blanks ↔ ∃ pieces : List (List Char), (∀ piece ∈ pieces, IsBlank piece) ∧
      blanks = pieces.flatten := by
  constructor
  · intro areBlanks
    induction areBlanks with
    | none => exact ⟨[], nofun, rfl⟩
    | @more piece others first _ later =>
        rcases later with ⟨pieces, arePieces, rfl⟩
        exact ⟨piece :: pieces, List.forall_mem_cons.mpr ⟨first, arePieces⟩, rfl⟩
  · intro row
    rcases row with ⟨pieces, arePieces, rfl⟩
    induction pieces with
    | nil => exact .none
    | cons piece pieces later =>
        rw [List.forall_mem_cons] at arePieces
        exact .more arePieces.1 (later arePieces.2)

theorem AreBlanks.of_advances {values : List Value} {input : Stream}
    (row : ((blank : Grammar ν).parser verbosity rules rounds).Advances input values rest)
    (isText : input = .text characters) :
    ∃ blanks after, AreBlanks blanks ∧ characters = blanks ++ after ∧ rest = .text after := by
  rcases readsPieces_blank.of_advances row isText with ⟨pieces, after, arePieces, split, _, left⟩
  exact ⟨_, after, areBlanks_iff.mpr ⟨pieces, arePieces, rfl⟩, split, left⟩

theorem AreBlanks.advances {blanks : List Char} (areBlanks : AreBlanks blanks)
    (after : List Char) :
    ∃ values, ((blank : Grammar ν).parser verbosity rules rounds).Advances
      (.text (blanks ++ after)) values (.text after) := by
  rcases areBlanks_iff.mp areBlanks with ⟨pieces, arePieces, rfl⟩
  exact ⟨_, readsPieces_blank.advances arePieces after⟩

theorem AreBlanks.of_skipMany
    (success : ((blank : Grammar ν).skipMany.parser verbosity rules rounds).Succeeds
      (.text characters) value rest) :
    ∃ blanks after, AreBlanks blanks ∧ characters = blanks ++ after ∧ rest = .text after := by
  rcases Parser.succeeds_mapM_iff.mp success with ⟨_, repeated, _⟩
  rcases Parser.succeeds_map_iff.mp repeated with ⟨values, repeated, _⟩
  exact AreBlanks.of_advances (Parser.succeeds_repeated_iff.mp repeated).2.1 rfl

theorem AreBlanks.skipMany {blanks after : List Char} (areBlanks : AreBlanks blanks)
    (dark : StartsDark after) :
    ((blank : Grammar ν).skipMany.parser verbosity rules rounds).Succeeds
      (.text (blanks ++ after)) .nothing (.text after) := by
  rcases areBlanks.advances after with ⟨values, row⟩
  refine Parser.succeeds_mapM_iff.mpr ⟨.list values, Parser.succeeds_map_iff.mpr
    ⟨values, Parser.succeeds_repeated_iff.mpr ⟨Nat.zero_le _, row, dark.fails_blank⟩, rfl⟩, rfl⟩

end Scanner

end OrderedChoice
