import OrderedChoice.Grammar.Derived
import OrderedChoice.Proofs.Parser.Sequence

/-!
# Trees of sequencing operators

Three operators put two grammars in a row, and differ in which of the two values they keep.
Expressions over them are trees whose leaves are the grammars to be run.  A tree runs its
leaves as a flat row and only then forms its value, so that neither the grouping nor the mix
of operators shows in anything but the value.
-/

namespace OrderedChoice

/-- The operators that put two grammars in a row: one keeps both values as a pair, the other
two keep the value on the right and the one on the left. -/
inductive Joint where
  | both | right | left
  deriving DecidableEq

namespace Joint

variable {ν : Type}

/-- Two grammars in a row. -/
def grammar : Joint → Grammar ν → Grammar ν → Grammar ν
  | .both => .both
  | .right => .seqRight
  | .left => .seqLeft

/-- What is kept of two values. -/
def keep : Joint → Value → Value → Value
  | .both, value, other => .tuple [value, other]
  | .right, _, other => other
  | .left, value, _ => value

/-- All three operators run both parts in order, and differ in the value only. -/
theorem parser_grammar (joint : Joint) (first second : Grammar ν) (verbosity : Verbosity)
    (rules : ν → Parser Value) (rounds : Nat) :
    (joint.grammar first second).parser verbosity rules rounds =
      (first.parser verbosity rules rounds).onSuccess fun value middle =>
        (second.parser verbosity rules rounds).onSuccess
          (fun other rest => Parser.accept (joint.keep value other) rest) middle := by
  cases joint with
  | left => rfl
  | right =>
      refine congrArg (Parser.onSuccess _) (funext fun value => ?_)
      exact (Parser.onSuccess_accept _).symm
  | both =>
      refine (Parser.onSuccess_assoc _ _ _).trans (congrArg (Parser.onSuccess _) ?_)
      funext value
      exact Parser.onSuccess_assoc _ _ _

end Joint

/-- An expression over the operators that put grammars in a row. -/
inductive SequenceTree (ν : Type) where
  | leaf (grammar : Grammar ν)
  | node (joint : Joint) (first second : SequenceTree ν)

namespace SequenceTree

variable {ν : Type}

/-- The grammar that the expression denotes. -/
def grammar : SequenceTree ν → Grammar ν
  | .leaf grammar => grammar
  | .node joint first second => joint.grammar first.grammar second.grammar

/-- The grammars at the leaves, from left to right. -/
def leaves : SequenceTree ν → List (Grammar ν)
  | .leaf grammar => [grammar]
  | .node _ first second => first.leaves ++ second.leaves

/-- The value of the expression, given those of its leaves from left to right. -/
def combine : SequenceTree ν → List Value → Value
  | .leaf _, values => values.headD .nothing
  | .node joint first second, values =>
      joint.keep (first.combine (values.take first.leaves.length))
        (second.combine (values.drop first.leaves.length))

variable {verbosity : Verbosity} {rules : ν → Parser Value} {rounds : Nat} {input : Stream}

theorem combine_append {joint : Joint} {first second : SequenceTree ν} {values more : List Value}
    (complete : values.length = first.leaves.length) :
    (node joint first second).combine (values ++ more) =
      joint.keep (first.combine values) (second.combine more) := by
  rw [combine, List.take_left' complete, List.drop_left' complete]

/-- The leaves are run as a flat row, with the same log, and the value is formed in the end. -/
theorem parser_grammar (tree : SequenceTree ν) :
    tree.grammar.parser verbosity rules rounds =
      (Parser.inTurn (tree.leaves.map (Grammar.parser verbosity rules rounds))).map
        tree.combine := by
  induction tree with
  | leaf grammar =>
      rw [leaves, List.map_singleton, Parser.inTurn, Parser.onSuccess_map]
      exact (Parser.onSuccess_accept _).symm
  | node joint first second firstFlat secondFlat =>
      funext input
      rw [grammar, joint.parser_grammar, firstFlat, secondFlat, leaves, List.map_append,
        Parser.inTurn_append, Parser.map_onSuccess, Parser.onSuccess_map]
      refine Parser.onSuccess_congr ?_
      intro values middle success
      have complete := (Parser.succeeds_inTurn_iff.mp success).length_eq
      rw [List.length_map] at complete
      rw [Parser.map_onSuccess, Parser.onSuccess_map]
      refine Parser.onSuccess_congr ?_
      intro more rest _
      exact congrArg (Parser.accept · rest) (combine_append complete).symm

theorem succeeds_iff {tree : SequenceTree ν} {value : Value} {rest : Stream} :
    (tree.grammar.parser verbosity rules rounds).Succeeds input value rest ↔
      ∃ values, Parser.Follows (tree.leaves.map (Grammar.parser verbosity rules rounds)) input
        values rest ∧ value = tree.combine values := by
  rw [parser_grammar, Parser.succeeds_map_iff]
  simp only [Parser.succeeds_inTurn_iff, eq_comm]

theorem stops_iff {tree : SequenceTree ν} (stop : Parser.Stop) :
    (tree.grammar.parser verbosity rules rounds input).outcome = stop.outcome ↔
      ∃ before stopping behind values current,
        tree.leaves.map (Grammar.parser verbosity rules rounds) =
          before ++ stopping :: behind ∧
        Parser.Follows before input values current ∧
        (stopping current).outcome = stop.outcome := by
  rw [parser_grammar, ← Parser.stops_inTurn_iff]
  cases stop with
  | failed error => exact Parser.fails_map_iff
  | halted halt => exact Parser.halts_map_iff

/-- Trees with the same leaves differ in their values only. -/
theorem same_but_value {tree other : SequenceTree ν} (same : other.leaves = tree.leaves)
    (verbosity : Verbosity) (rules : ν → Parser Value) (rounds : Nat) (input : Stream) :
    let parser := tree.grammar.parser verbosity rules rounds
    let otherParser := other.grammar.parser verbosity rules rounds
    (∀ rest, (∃ value, parser.Succeeds input value rest) ↔
      ∃ value, otherParser.Succeeds input value rest) ∧
    (∀ stop : Parser.Stop,
      (parser input).outcome = stop.outcome ↔ (otherParser input).outcome = stop.outcome) ∧
    (parser input).log = (otherParser input).log := by
  intro parser otherParser
  refine ⟨?_, ?_, ?_⟩
  · intro rest
    simp only [parser, otherParser, succeeds_iff, same]
    constructor <;>
    · intro success
      rcases success with ⟨_, values, follows, _⟩
      exact ⟨_, values, follows, rfl⟩
  · intro stop
    simp only [parser, otherParser, stops_iff, same]
  · simp only [parser, otherParser, parser_grammar, Parser.log_map, same]

/-- A tree of sequencing operators runs its leaves from left to right, each on what the one
before it has left, and nothing else.  It succeeds when all of them do, with the rest of the
last one and with the value that the operators make of theirs.  Otherwise it fails, or does
not return, just as the first leaf that does not succeed, whatever the leaves behind that one
are.  So trees with the same leaves differ in nothing but the value.  One of these trees is
a body between two other grammars. -/
theorem runs_leaves_in_turn (tree : SequenceTree ν) (verbosity : Verbosity)
    (rules : ν → Parser Value) (rounds : Nat) (input : Stream) :
    let meaning := Grammar.parser verbosity rules rounds
    let leaves := tree.leaves.map meaning
    let parser := meaning tree.grammar
    (∀ value rest, parser.Succeeds input value rest ↔
      ∃ values, Parser.Follows leaves input values rest ∧ value = tree.combine values) ∧
    (∀ error, parser.Fails input error ↔
      ∃ before failing behind values current, leaves = before ++ failing :: behind ∧
        Parser.Follows before input values current ∧ failing.Fails current error) ∧
    (∀ halt, (parser input).outcome = .error halt ↔
      ∃ before halting behind values current, leaves = before ++ halting :: behind ∧
        Parser.Follows before input values current ∧ (halting current).outcome = .error halt) ∧
    parser input = (Parser.inTurn leaves).map tree.combine input ∧
    (∀ other : SequenceTree ν, other.leaves = tree.leaves →
      (∀ rest, (∃ value, parser.Succeeds input value rest) ↔
        ∃ value, (meaning other.grammar).Succeeds input value rest) ∧
      (∀ error, parser.Fails input error ↔ (meaning other.grammar).Fails input error) ∧
      (parser input).log = (meaning other.grammar input).log) ∧
    ∀ opening closing body : Grammar ν, Grammar.between opening closing body =
      (node .left (node .right (leaf opening) (leaf body)) (leaf closing)).grammar := by
  intro meaning leaves parser
  refine ⟨fun value rest => succeeds_iff, ?_, ?_, congrFun (parser_grammar tree) input, ?_, ?_⟩
  · intro error
    exact stops_iff (.failed error)
  · intro halt
    exact stops_iff (.halted halt)
  · intro other same
    rcases same_but_value same verbosity rules rounds input with ⟨succeed, stop, log⟩
    exact ⟨succeed, fun error => stop (.failed error), log⟩
  · intro opening closing body
    rfl

end SequenceTree

end OrderedChoice
