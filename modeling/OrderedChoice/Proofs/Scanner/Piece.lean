import OrderedChoice.Proofs.Parser.Answer
import OrderedChoice.Proofs.Repetition

/-!
# Pieces of text

Many parsers for text take one of certain pieces off the front, such as a digit or a line break,
and yield what it stands for.  A repetition of such a parser takes pieces as long as there are any.
It cuts its text into a row of pieces and a rest that begins with none of them.
-/

namespace OrderedChoice

namespace Scanner

/-- Characters as the value of a text. -/
def textOf (characters : List Char) : Value := .text (String.ofList characters)

theorem ofChar_eq_textOf (character : Char) : Value.ofChar character = textOf [character] :=
  congrArg Value.text String.singleton_eq_ofList

/-- On text the parser takes a piece off the front, where there is one, and yields its value. -/
structure ReadsPieces (parser : Parser Value) (isPiece : List Char → Prop)
    (valueOf : List Char → Value) : Prop where
  nonempty : ∀ {piece}, isPiece piece → piece ≠ []
  succeeds_iff : ∀ {characters value rest}, parser.Succeeds (.text characters) value rest ↔
    ∃ piece after, isPiece piece ∧ characters = piece ++ after ∧ value = valueOf piece ∧
      rest = .text after
  fails : ∀ {characters}, (∀ piece, isPiece piece → ¬ piece <+: characters) →
    ∃ error, parser.Fails (.text characters) error

/-- The characters are pieces in a row, and no further piece begins what is after them. -/
structure IsCut (isPiece : List Char → Prop) (characters : List Char) (pieces : List (List Char))
    (after : List Char) : Prop where
  arePieces : ∀ piece ∈ pieces, isPiece piece
  split : characters = pieces.flatten ++ after
  ends : ∀ piece, isPiece piece → ¬ piece <+: after

/-! ## Single characters -/

section Singles

variable {condition : Char → Prop} {characters after : List Char} {pieces : List (List Char)}

/-- One character that meets the condition, as a piece. -/
def IsSingle (condition : Char → Prop) (piece : List Char) : Prop :=
  ∃ character, condition character ∧ piece = [character]

theorem IsSingle.nonempty {piece : List Char} (isSingle : IsSingle condition piece) :
    piece ≠ [] := by
  rcases isSingle with ⟨character, _, rfl⟩
  exact List.cons_ne_nil _ _

/-- Every character as a piece of its own. -/
def singles (characters : List Char) : List (List Char) :=
  characters.map fun character => [character]

theorem flatten_singles (characters : List Char) : (singles characters).flatten = characters := by
  rw [singles, ← List.flatMap_def]
  exact List.flatMap_singleton' characters

theorem exists_map_of_forall {α β : Type} {make : α → β} {products : List β}
    (made : ∀ product ∈ products, ∃ part, product = make part) :
    ∃ parts : List α, products = parts.map make := by
  induction products with
  | nil => exact ⟨[], rfl⟩
  | cons first others later =>
      rw [List.forall_mem_cons] at made
      rcases made.1 with ⟨part, rfl⟩
      rcases later made.2 with ⟨parts, rfl⟩
      exact ⟨part :: parts, rfl⟩

theorem forall_isSingle_iff :
    (∀ piece ∈ pieces, IsSingle condition piece) ↔
      ∃ taken, pieces = singles taken ∧ ∀ character ∈ taken, condition character := by
  constructor
  · intro areSingle
    have single : ∀ piece ∈ pieces, ∃ character, piece = [character] := fun piece member =>
      (areSingle piece member).imp fun _ described => described.2
    rcases exists_map_of_forall single with ⟨taken, rfl⟩
    refine ⟨taken, rfl, ?_⟩
    intro character member
    rcases areSingle [character] (List.mem_map_of_mem member) with ⟨_, holds, same⟩
    cases same
    exact holds
  · intro described
    rcases described with ⟨taken, rfl, holds⟩
    intro piece member
    rcases List.mem_map.mp member with ⟨character, within, rfl⟩
    exact ⟨character, holds character within, rfl⟩

/-- No single character begins a text whose first character does not meet the condition. -/
theorem not_isSingle_prefix_iff :
    (∀ piece, IsSingle condition piece → ¬ piece <+: characters) ↔
      ∀ first, characters.head? = some first → ¬ condition first := by
  constructor
  · intro none first head holds
    rcases List.head?_eq_some_iff.mp head with ⟨others, rfl⟩
    exact none [first] ⟨first, holds, rfl⟩ (List.prefix_append [first] others)
  · intro none piece isSingle starts
    rcases isSingle with ⟨character, holds, rfl⟩
    rcases starts with ⟨others, rfl⟩
    exact none character rfl holds

/-- Cutting into single characters is taking all of them that stand in a row. -/
theorem isCut_isSingle_iff :
    IsCut (IsSingle condition) characters pieces after ↔
      ∃ taken, pieces = singles taken ∧ characters = taken ++ after ∧
        (∀ character ∈ taken, condition character) ∧
        ∀ first, after.head? = some first → ¬ condition first := by
  constructor
  · intro cut
    rcases forall_isSingle_iff.mp cut.arePieces with ⟨taken, rfl, holds⟩
    exact ⟨taken, rfl, cut.split.trans (by rw [flatten_singles]), holds,
      not_isSingle_prefix_iff.mp cut.ends⟩
  · intro described
    rcases described with ⟨taken, rfl, rfl, holds, ends⟩
    exact ⟨forall_isSingle_iff.mpr ⟨taken, rfl, holds⟩, by rw [flatten_singles],
      not_isSingle_prefix_iff.mpr ends⟩

end Singles

namespace ReadsPieces

variable {ν : Type} {verbosity : Verbosity} {rules : ν → Parser Value} {rounds : Nat}
  {parser : Parser Value} {body : Grammar ν} {isPiece : List Char → Prop}
  {valueOf : List Char → Value} {condition : Char → Prop} {characters : List Char} {pieces : List (List Char)} {value : Value} {values : List Value}
  {input rest : Stream}

/-- The parser fails nowhere but where no piece is. -/
theorem fails_iff (reads : ReadsPieces parser isPiece valueOf) :
    (∃ error, parser.Fails (.text characters) error) ↔
      ∀ piece, isPiece piece → ¬ piece <+: characters := by
  constructor
  · intro failure piece piecewise starts
    rcases failure with ⟨error, failed⟩
    rcases starts with ⟨after, rfl⟩
    exact (reads.succeeds_iff.mpr ⟨piece, after, piecewise, rfl, rfl, rfl⟩).not_fails failed
  · exact reads.fails

theorem answers (reads : ReadsPieces parser isPiece valueOf) (characters : List Char) :
    parser.Answers (.text characters) := by
  by_cases some : ∃ piece, isPiece piece ∧ piece <+: characters
  · rcases some with ⟨piece, piecewise, after, rfl⟩
    exact (reads.succeeds_iff.mpr ⟨piece, after, piecewise, rfl, rfl, rfl⟩).answers
  · rcases reads.fails fun piece piecewise starts => some ⟨piece, piecewise, starts⟩ with
      ⟨error, failed⟩
    exact failed.answers

/-- A row of successes takes just its pieces off the text. -/
theorem of_advances (reads : ReadsPieces parser isPiece valueOf)
    (row : parser.Advances input values rest) (isText : input = .text characters) :
    ∃ (pieces : List (List Char)) (after : List Char), (∀ piece ∈ pieces, isPiece piece) ∧
      characters = pieces.flatten ++ after ∧ values = pieces.map valueOf ∧ rest = .text after := by
  induction row generalizing characters with
  | stay input => exact ⟨[], characters, nofun, rfl, rfl, isText⟩
  | step success _ _ later =>
      subst isText
      rcases reads.succeeds_iff.mp success with ⟨piece, middle, piecewise, rfl, rfl, rfl⟩
      rcases later rfl with ⟨pieces, after, others, rfl, rfl, left⟩
      refine ⟨piece :: pieces, after, List.forall_mem_cons.mpr ⟨piecewise, others⟩, ?_, rfl, left⟩
      rw [List.flatten_cons, List.append_assoc]

theorem advances (reads : ReadsPieces parser isPiece valueOf) (arePieces : ∀ piece ∈ pieces, isPiece piece)
    (after : List Char) :
    parser.Advances (.text (pieces.flatten ++ after)) (pieces.map valueOf) (.text after) := by
  induction pieces with
  | nil => exact .stay _
  | cons piece pieces later =>
      rw [List.forall_mem_cons] at arePieces
      rw [List.flatten_cons, List.append_assoc]
      refine .step (reads.succeeds_iff.mpr ⟨piece, _, arePieces.1, rfl, rfl, rfl⟩) ?_
        (later arePieces.2)
      change (pieces.flatten ++ after).length < (piece ++ (pieces.flatten ++ after)).length
      have some : 0 < piece.length := List.length_pos_iff.mpr (reads.nonempty arePieces.1)
      simp only [List.length_append]
      omega

/-- Every text is cut in some way. -/
theorem exists_isCut (reads : ReadsPieces parser isPiece valueOf) (characters : List Char) :
    ∃ pieces after, IsCut isPiece characters pieces after := by
  rcases Parser.exists_advances_to_end parser (.text characters) with ⟨values, current, row, stops⟩
  rcases reads.of_advances row rfl with ⟨pieces, after, arePieces, split, rfl, rfl⟩
  refine ⟨pieces, after, arePieces, split, reads.fails_iff.mp ?_⟩
  rcases stops with failure | ⟨value, rest, success, notShorter⟩ | ⟨halt, halts⟩
  · exact failure
  · -- a success takes a piece, so it leaves less
    rcases reads.succeeds_iff.mp success with ⟨piece, others, piecewise, rfl, rfl, rfl⟩
    have some : 0 < piece.length := List.length_pos_iff.mpr (reads.nonempty piecewise)
    change (piece ++ others).length ≤ others.length at notShorter
    rw [List.length_append] at notShorter
    omega
  · exact absurd halts (reads.answers after).not_halts

/-! ## Repetition -/

/-- A repetition takes all the pieces that there are. -/
theorem succeeds_atLeastOnce_iff
    (reads : ReadsPieces (body.parser verbosity rules rounds) isPiece valueOf) :
    (body.atLeastOnce.parser verbosity rules rounds).Succeeds (.text characters) value rest ↔
      ∃ pieces after, pieces ≠ [] ∧ IsCut isPiece characters pieces after ∧
        value = .list (pieces.map valueOf) ∧ rest = .text after := by
  refine Grammar.succeeds_atLeastOnce_iff.trans ?_
  constructor
  · intro success
    rcases success with ⟨values, rfl, some, row, failure⟩
    rcases reads.of_advances row rfl with ⟨pieces, after, arePieces, split, rfl, rfl⟩
    have nonempty : pieces ≠ [] := fun none => some (List.map_eq_nil_iff.mpr none)
    exact ⟨pieces, after, nonempty, ⟨arePieces, split, reads.fails_iff.mp failure⟩, rfl, rfl⟩
  · intro success
    rcases success with ⟨pieces, after, some, ⟨arePieces, rfl, ends⟩, rfl, rfl⟩
    have nonempty : pieces.map valueOf ≠ [] := fun none => some (List.map_eq_nil_iff.mp none)
    exact ⟨_, rfl, nonempty, reads.advances arePieces after, reads.fails ends⟩

/-- A repetition of a parser for single characters takes all of them that stand in a row. -/
theorem succeeds_atLeastOnce_isSingle_iff
    (reads : ReadsPieces (body.parser verbosity rules rounds) (IsSingle condition) valueOf) :
    (body.atLeastOnce.parser verbosity rules rounds).Succeeds (.text characters) value rest ↔
      ∃ taken after, taken ≠ [] ∧ (∀ character ∈ taken, condition character) ∧
        (∀ first, after.head? = some first → ¬ condition first) ∧ characters = taken ++ after ∧
        value = .list ((singles taken).map valueOf) ∧ rest = .text after := by
  refine reads.succeeds_atLeastOnce_iff.trans ?_
  constructor
  · intro success
    rcases success with ⟨pieces, after, some, cut, rfl, left⟩
    rcases isCut_isSingle_iff.mp cut with ⟨taken, rfl, split, holds, ends⟩
    exact ⟨taken, after, fun none => some (by rw [none]; rfl), holds, ends, split, rfl, left⟩
  · intro success
    rcases success with ⟨taken, after, some, holds, ends, split, rfl, left⟩
    have nonempty : singles taken ≠ [] := fun none => some (List.map_eq_nil_iff.mp none)
    exact ⟨_, after, nonempty, isCut_isSingle_iff.mpr ⟨taken, rfl, split, holds, ends⟩, rfl, left⟩

/-- A repetition succeeds where a piece stands. -/
theorem exists_succeeds_atLeastOnce_iff
    (reads : ReadsPieces (body.parser verbosity rules rounds) isPiece valueOf) :
    (∃ value rest, (body.atLeastOnce.parser verbosity rules rounds).Succeeds (.text characters)
        value rest) ↔ ∃ piece, isPiece piece ∧ piece <+: characters := by
  constructor
  · intro success
    rcases success with ⟨value, rest, success⟩
    rcases reads.succeeds_atLeastOnce_iff.mp success with ⟨pieces, after, some, cut, _, _⟩
    rcases List.exists_cons_of_ne_nil some with ⟨piece, others, rfl⟩
    refine ⟨piece, cut.arePieces piece List.mem_cons_self, ?_⟩
    rw [cut.split, List.flatten_cons, List.append_assoc]
    exact List.prefix_append _ _
  · intro starts
    rcases starts with ⟨piece, piecewise, others, rfl⟩
    rcases reads.exists_isCut others with ⟨pieces, after, cut⟩
    refine ⟨_, _, reads.succeeds_atLeastOnce_iff.mpr ⟨piece :: pieces, after,
      List.cons_ne_nil _ _, ⟨List.forall_mem_cons.mpr ⟨piecewise, cut.arePieces⟩, ?_, cut.ends⟩,
      rfl, rfl⟩⟩
    rw [List.flatten_cons, List.append_assoc, ← cut.split]

/-- A repetition answers on every text, as the parser does. -/
theorem answers_atLeastOnce
    (reads : ReadsPieces (body.parser verbosity rules rounds) isPiece valueOf)
    (characters : List Char) :
    (body.atLeastOnce.parser verbosity rules rounds).Answers (.text characters) := by
  refine Parser.answers_of_not_halts ?_
  intro halt halted
  rcases Grammar.halts_atLeastOnce_iff.mp halted with ⟨values, current, row, halts⟩
  rcases reads.of_advances row rfl with ⟨_, after, _, _, _, rfl⟩
  exact (reads.answers after).not_halts halts

end ReadsPieces

end Scanner

end OrderedChoice
