import Mathlib.Data.List.Basic
import Mathlib.Data.List.Induction
import OrderedChoice.Proofs.Grammar.Sequence
import OrderedChoice.Scanner.Character

/-!
# Flat sequences

Grammars put in a row pair by pair yield pairs that nest to the left, with one level for each
grammar behind the first.  Taking exactly that many levels apart gives back the values of the
row and nothing inside them: a value that is itself a pair is not a level.  A flat sequence
therefore runs its grammars as a row and yields the tuple of their values, whatever these are.
-/

namespace OrderedChoice

namespace Grammar

variable {ν : Type} {verbosity : Verbosity} {rules : ν → Parser Value} {rounds : Nat}

/-! ## Pairs that nest to the left -/

/-- Pair each value of a row with everything in front of it. -/
def pairLeft (first : Value) (others : List Value) : Value :=
  others.foldl (fun nested value => .tuple [nested, value]) first

theorem pairLeft_concat (first : Value) (others : List Value) (last : Value) :
    pairLeft first (others ++ [last]) = .tuple [pairLeft first others, last] := by
  simp only [pairLeft, List.foldl_append, List.foldl_cons, List.foldl_nil]

theorem unnest?_pairLeft (first : Value) (others : List Value) :
    unnest? others.length (pairLeft first others) = some (first :: others) := by
  induction others using List.reverseRecOn with
  | nil => rfl
  | append_singleton others last earlier =>
      rw [List.length_append, List.length_singleton, pairLeft_concat, unnest?, earlier,
        Option.map_some, List.cons_append]

/-- Flattening undoes the pairing of any row of values. -/
theorem flatten_pairLeft (first : Value) (others : List Value) :
    flatten others.length (pairLeft first others) = .ok (.tuple (first :: others)) := by
  rw [flatten, unnest?_pairLeft]
  rfl

/-! ## Rows that nest to the left -/

/-- The row of grammars as an expression that groups to the left. -/
def pairedTree (first : Grammar ν) (others : List (Grammar ν)) : SequenceTree ν :=
  others.foldl (fun tree other => .node .both tree (.leaf other)) (.leaf first)

theorem pairedTree_concat (first : Grammar ν) (others : List (Grammar ν)) (last : Grammar ν) :
    pairedTree first (others ++ [last]) = .node .both (pairedTree first others) (.leaf last) := by
  simp only [pairedTree, List.foldl_append, List.foldl_cons, List.foldl_nil]

theorem grammar_pairedTree (first : Grammar ν) (others : List (Grammar ν)) :
    (pairedTree first others).grammar = others.foldl .both first := by
  induction others using List.reverseRecOn with
  | nil => rfl
  | append_singleton others last earlier =>
      rw [pairedTree_concat, SequenceTree.grammar, earlier, List.foldl_append]
      rfl

theorem leaves_pairedTree (first : Grammar ν) (others : List (Grammar ν)) :
    (pairedTree first others).leaves = first :: others := by
  induction others using List.reverseRecOn with
  | nil => rfl
  | append_singleton others last earlier =>
      rw [pairedTree_concat, SequenceTree.leaves, earlier]
      rfl

theorem combine_pairedTree (first : Grammar ν) (others : List (Grammar ν)) (value : Value)
    (values : List Value) (complete : values.length = others.length) :
    (pairedTree first others).combine (value :: values) = pairLeft value values := by
  induction others using List.reverseRecOn generalizing values with
  | nil =>
      rw [List.eq_nil_of_length_eq_zero complete]
      rfl
  | append_singleton others last earlier =>
      rw [List.length_append, List.length_singleton] at complete
      rcases values.eq_nil_or_concat' with rfl | ⟨values, lastValue, rfl⟩
      · exact absurd complete (Nat.succ_ne_zero _).symm
      · rw [List.length_append, List.length_singleton, Nat.add_right_cancel_iff] at complete
        have full : (value :: values).length = (pairedTree first others).leaves.length := by
          rw [leaves_pairedTree, List.length_cons, List.length_cons, complete]
        rw [pairedTree_concat, pairLeft_concat, ← earlier values complete, ← List.cons_append,
          SequenceTree.combine_append full]
        rfl

/-! ## The row behind a flat sequence -/

/-- A row that succeeds has a value for its first grammar and one for each of the others. -/
theorem exists_cons_of_follows {first : Grammar ν} {others : List (Grammar ν)}
    {input rest : Stream} {values : List Value}
    (follows : Parser.Follows ((first :: others).map (Grammar.parser verbosity rules rounds)) input
      values rest) :
    ∃ head tail, values = head :: tail ∧ tail.length = others.length := by
  have complete := follows.length_eq
  cases values with
  | nil => exact absurd complete (Nat.succ_ne_zero _).symm
  | cons head tail =>
      rw [List.length_map, List.length_cons, List.length_cons, Nat.add_right_cancel_iff] at complete
      exact ⟨head, tail, rfl, complete⟩

/-- A flat sequence runs its grammars as a row, with the same log, and yields their values side
by side.  Flattening is never asked for anything but what the row has paired. -/
theorem parser_sequence (first : Grammar ν) (others : List (Grammar ν)) :
    (sequence first others).parser verbosity rules rounds =
      (Parser.inTurn ((first :: others).map (Grammar.parser verbosity rules rounds))).map
        .tuple := by
  funext input
  change Parser.mapM (flatten others.length)
    ((others.foldl .both first).parser verbosity rules rounds) input = _
  rw [← grammar_pairedTree, SequenceTree.parser_grammar, leaves_pairedTree]
  refine (congrFun (Parser.map_onSuccess _ _ _) input).trans (Parser.onSuccess_congr ?_)
  intro values rest success
  rcases exists_cons_of_follows (Parser.succeeds_inTurn_iff.mp success) with
    ⟨head, tail, rfl, complete⟩
  rw [combine_pairedTree first others head tail complete, ← complete, flatten_pairLeft]
  rfl

theorem succeeds_foldl_both_iff {first : Grammar ν} {others : List (Grammar ν)} {input rest : Stream}
    {value : Value} :
    ((others.foldl .both first).parser verbosity rules rounds).Succeeds input value rest ↔
      ∃ head tail, Parser.Follows ((first :: others).map (Grammar.parser verbosity rules rounds))
        input (head :: tail) rest ∧ value = pairLeft head tail := by
  rw [← grammar_pairedTree, SequenceTree.succeeds_iff, leaves_pairedTree]
  constructor
  · intro success
    rcases success with ⟨values, follows, same⟩
    rcases exists_cons_of_follows follows with ⟨head, tail, rfl, complete⟩
    rw [combine_pairedTree first others head tail complete] at same
    exact ⟨head, tail, follows, same⟩
  · intro success
    rcases success with ⟨head, tail, follows, same⟩
    rcases exists_cons_of_follows follows with ⟨_, _, split, complete⟩
    cases split
    rw [← combine_pairedTree first others head tail complete] at same
    exact ⟨head :: tail, follows, same⟩

/-- A flat sequence ends without a match just as the nested pairs do. -/
theorem outcome_sequence_eq_stop_iff {first : Grammar ν} {others : List (Grammar ν)}
    {input : Stream} (stop : Parser.Stop) :
    ((sequence first others).parser verbosity rules rounds input).outcome = stop.outcome ↔
      ((others.foldl .both first).parser verbosity rules rounds input).outcome =
        stop.outcome := by
  rw [← grammar_pairedTree, SequenceTree.stops_iff, leaves_pairedTree, ← Parser.stops_inTurn_iff,
    parser_sequence]
  cases stop with
  | failed error => exact Parser.fails_map_iff
  | halted halt => exact Parser.halts_map_iff

theorem succeeds_sequence_iff {first : Grammar ν} {others : List (Grammar ν)}
    {input rest : Stream} {value : Value} :
    ((sequence first others).parser verbosity rules rounds).Succeeds input value rest ↔
      ∃ values, Parser.Follows ((first :: others).map (Grammar.parser verbosity rules rounds))
        input values rest ∧ value = .tuple values := by
  rw [parser_sequence, Parser.succeeds_map_iff]
  simp only [Parser.succeeds_inTurn_iff, eq_comm]

theorem log_sequence (first : Grammar ν) (others : List (Grammar ν)) (input : Stream) :
    ((sequence first others).parser verbosity rules rounds input).log =
      ((others.foldl .both first).parser verbosity rules rounds input).log := by
  rw [← grammar_pairedTree, SequenceTree.parser_grammar, leaves_pairedTree, parser_sequence,
    Parser.log_map, Parser.log_map]

/-- The operator of an accepted arity takes that many grammars and makes the flat sequence of
them. -/
theorem sequenceOf?_eq_ok {first : Grammar ν} {others : List (Grammar ν)}
    (accepted : checkArity (first :: others).length = .ok ()) :
    sequenceOf? (first :: others).length (first :: others) = .ok (sequence first others) := by
  rw [sequenceOf?, accepted]
  exact if_pos rfl

/-- A flat sequence of an accepted number of grammars is made by the operator of its arity and
by the one that counts its grammars itself.  It runs as the grammars do when they are put
together pair by pair: it fails with the same error, does not return for the same reason, and
writes the same log.  Where these pairs nest to the left, the flat sequence has the same rest
and yields one value for each grammar in order, whatever the values are.  Taking pairs apart
is no reason of its own not to return, as it undoes the pairing of any row of values. -/
theorem sequences_are_flat (first : Grammar ν) (others : List (Grammar ν))
    (accepted : checkArity (first :: others).length = .ok ()) (verbosity : Verbosity)
    (rules : ν → Parser Value) (rounds : Nat) (input : Stream) :
    let meaning := Grammar.parser verbosity rules rounds
    let row := (first :: others).map meaning
    let nested := meaning (others.foldl .both first)
    let flat := meaning (sequence first others)
    (sequenceOf? (first :: others).length (first :: others) = .ok (sequence first others) ∧
      sequence? (first :: others) = .ok (sequence first others)) ∧
    (∀ value rest, nested.Succeeds input value rest ↔
      ∃ head tail, Parser.Follows row input (head :: tail) rest ∧ value = pairLeft head tail) ∧
    (∀ value rest, flat.Succeeds input value rest ↔
      ∃ values, Parser.Follows row input values rest ∧ values.length = row.length ∧
        value = .tuple values) ∧
    (∀ error, flat.Fails input error ↔ nested.Fails input error) ∧
    (∀ halt, (flat input).outcome = .error halt ↔ (nested input).outcome = .error halt) ∧
    (flat input).log = (nested input).log ∧
    ∀ head tail, flatten tail.length (pairLeft head tail) = .ok (.tuple (head :: tail)) := by
  intro meaning row nested flat
  refine ⟨⟨sequenceOf?_eq_ok accepted, sequenceOf?_eq_ok accepted⟩,
    fun value rest => succeeds_foldl_both_iff, ?_, ?_, ?_, log_sequence first others input,
    flatten_pairLeft⟩
  · intro value rest
    rw [succeeds_sequence_iff]
    constructor
    · intro success
      rcases success with ⟨values, follows, same⟩
      exact ⟨values, follows, follows.length_eq, same⟩
    · intro success
      rcases success with ⟨values, follows, _, same⟩
      exact ⟨values, follows, same⟩
  · intro error
    exact outcome_sequence_eq_stop_iff (.failed error)
  · intro halt
    exact outcome_sequence_eq_stop_iff (.halted halt)

/-- Values that are pairs themselves come out as they are. -/
theorem sequence_of_pairs_is_flat :
    let pair := Value.tuple [.int 1, .int 2]
    let deeper := Value.tuple [pair, .int 3]
    let row : List (Grammar Unit) := [Scanner.exactCharacter 'a', .pure deeper]
    let flat := (sequence (.pure pair) row).parser .warning (fun _ => .fail "") 0
    checkArity 3 = .ok () ∧
      sequence? (.pure pair :: row) = .ok (sequence (.pure pair) row) ∧
      flat.Succeeds (.text ['a', 'b']) (.tuple [pair, .text "a", deeper]) (.text ['b']) := by
  intro pair deeper row flat
  have accepted : checkArity 3 = .ok () := rfl
  have law := sequences_are_flat (.pure pair) row accepted .warning (fun _ => .fail "") 0
    (.text ['a', 'b'])
  have follows : Parser.Follows ((.pure pair :: row).map (Grammar.parser .warning
      (fun _ => .fail "") 0)) (.text ['a', 'b']) [pair, .text "a", deeper] (.text ['b']) :=
    .next rfl (.next rfl (.next rfl (.done _)))
  exact ⟨accepted, law.1.2, (law.2.2.1 _ _).mpr ⟨_, follows, rfl, rfl⟩⟩

end Grammar

end OrderedChoice
