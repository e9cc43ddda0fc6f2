import Mathlib.Data.List.Basic
import OrderedChoice.Proofs.Grammar.Ending
import OrderedChoice.Proofs.Grammar.Sequence

/-!
# Ordered choice

Alternatives are tried in order, every one at the same input, until one does not fail.  How
they are grouped makes no difference, not even to the log: a choice among choices is the choice
among all their alternatives.  A head that all alternatives share may be taken out of them, and
a tail may be moved into them where the whole succeeds.
-/

namespace OrderedChoice

namespace Parser

variable {α β : Type} {first second : Parser α} {input : Stream}

theorem orElse_assoc (first second third : Parser α) :
    (first.orElse second).orElse third = first.orElse (second.orElse third) := by
  funext input
  refine (Run.bind_assoc _ _ _).trans (Run.bind_congr ?_)
  intro result _
  cases result with
  | success value rest => rfl
  | failure error => rfl

/-- A choice that fails at once leaves no trace of itself. -/
theorem fail_orElse (content : String) (parser : Parser α) :
    (fail content).orElse parser = parser := rfl

/-- Whatever is not a failure ends a choice. -/
theorem outcome_orElse_eq_iff {outcome : Except Halt (Result α)}
    (decided : ∀ error, outcome ≠ .ok (.failure error)) :
    (first.orElse second input).outcome = outcome ↔
      (first input).outcome = outcome ∨
        (∃ error, first.Fails input error) ∧ (second input).outcome = outcome := by
  unfold Fails
  rw [outcome_orElse]
  cases (first input).outcome with
  | error halt => simp only [reduceCtorEq, exists_false, false_and, or_false]
  | ok result =>
      cases result with
      | success value rest =>
          simp only [Except.ok.injEq, reduceCtorEq, exists_false, false_and, or_false]
      | failure error =>
          simp only [Except.ok.injEq, Result.failure.injEq, exists_eq', true_and,
            (decided error).symm, false_or]

theorem map_orElse (f : α → β) (first second : Parser α) :
    (first.orElse second).map f = (first.map f).orElse (second.map f) := by
  funext input
  refine (Run.bind_assoc _ _ _).trans ((Run.bind_congr ?_).trans (Run.bind_assoc _ _ _).symm)
  intro result _
  cases result with
  | success value rest => rfl
  | failure error => rfl

theorem outcome_bind (parser : Parser α) (next : α → Parser β) (input : Stream) :
    (parser.bind next input).outcome =
      match (parser input).outcome with
      | .ok (.success value rest) => (next value rest).outcome
      | .ok (.failure error) => .ok (.failure error)
      | .error halt => .error halt :=
  outcome_onSuccess parser next input

/-- Alternatives behind a parser may be tried behind one run of it or behind a run each. -/
theorem outcome_bind_orElse (parser : Parser α) (next other : α → Parser β) (input : Stream) :
    (parser.bind (fun value => (next value).orElse (other value)) input).outcome =
      ((parser.bind next).orElse (parser.bind other) input).outcome := by
  rw [outcome_orElse, outcome_bind, outcome_bind, outcome_bind]
  cases (parser input).outcome with
  | error halt => rfl
  | ok result =>
      cases result with
      | failure error => rfl
      | success value rest => exact outcome_orElse _ _ _

end Parser

namespace Grammar

variable {ν : Type} {verbosity : Verbosity} {rules : ν → Parser Value} {rounds : Nat}
  {alternatives others : List (Grammar ν)} {input rest : Stream} {value : Value}
  {error : ParseError}

/-! ## Grouping -/

theorem parser_foldl_orElse (first second : Grammar ν) (others : List (Grammar ν)) :
    (others.foldl .orElse (first.orElse second)).parser verbosity rules rounds =
      (first.orElse (others.foldl .orElse second)).parser verbosity rules rounds := by
  induction others generalizing first second with
  | nil => rfl
  | cons third others later =>
      calc
        (others.foldl .orElse ((first.orElse second).orElse third)).parser verbosity rules rounds =
            ((first.orElse second).orElse (others.foldl .orElse third)).parser verbosity rules
              rounds := later (first.orElse second) third
        _ = (first.orElse (second.orElse (others.foldl .orElse third))).parser verbosity rules
              rounds := Parser.orElse_assoc _ _ _
        _ = (first.orElse (others.foldl .orElse (second.orElse third))).parser verbosity rules
              rounds := congrArg (Parser.orElse _) (later second third).symm

/-- A choice may be cut in front of any of its alternatives. -/
theorem parser_choice_append (alternatives : List (Grammar ν)) (some : others ≠ []) :
    (choice (alternatives ++ others)).parser verbosity rules rounds =
      ((choice alternatives).orElse (choice others)).parser verbosity rules rounds := by
  cases alternatives with
  | nil => exact (Parser.fail_orElse _ _).symm
  | cons first alternatives =>
      rcases List.exists_cons_of_ne_nil some with ⟨second, others, rfl⟩
      change ((alternatives ++ second :: others).foldl .orElse first).parser verbosity rules
        rounds = _
      rw [List.foldl_append, List.foldl_cons]
      exact parser_foldl_orElse _ second others

theorem parser_choice_cons (first : Grammar ν) (some : others ≠ []) :
    (choice (first :: others)).parser verbosity rules rounds =
      (first.orElse (choice others)).parser verbosity rules rounds :=
  parser_choice_append [first] some

/-- An expression over two-way choices. -/
inductive ChoiceTree (ν : Type) where
  | leaf (grammar : Grammar ν)
  | node (first second : ChoiceTree ν)

namespace ChoiceTree

/-- The grammar that the expression denotes. -/
def grammar : ChoiceTree ν → Grammar ν
  | .leaf grammar => grammar
  | .node first second => first.grammar.orElse second.grammar

/-- The alternatives at the leaves, from left to right. -/
def leaves : ChoiceTree ν → List (Grammar ν)
  | .leaf grammar => [grammar]
  | .node first second => first.leaves ++ second.leaves

theorem leaves_ne_nil (tree : ChoiceTree ν) : tree.leaves ≠ [] := by
  induction tree with
  | leaf grammar => exact List.cons_ne_nil _ _
  | node first second some _ => exact List.append_ne_nil_of_left_ne_nil some _

/-- An expression tries its leaves in order, whatever their grouping. -/
theorem parser_grammar (tree : ChoiceTree ν) :
    tree.grammar.parser verbosity rules rounds =
      (choice tree.leaves).parser verbosity rules rounds := by
  induction tree with
  | leaf grammar => rfl
  | node first second firstFlat secondFlat =>
      rw [leaves, parser_choice_append _ second.leaves_ne_nil]
      change Parser.orElse _ _ = Parser.orElse _ _
      rw [firstFlat, secondFlat]

end ChoiceTree

/-! ## The alternative that decides -/

/-- A choice fails when all its alternatives do. -/
theorem exists_fails_choice_iff :
    (∃ error, ((choice alternatives).parser verbosity rules rounds).Fails input error) ↔
      ∀ alternative ∈ alternatives,
        ∃ error, (alternative.parser verbosity rules rounds).Fails input error := by
  induction alternatives with
  | nil =>
      simp only [List.not_mem_nil, false_implies, implies_true, iff_true]
      exact ⟨_, Parser.fails_fail_iff.mpr rfl⟩
  | cons first others later =>
      rw [List.forall_mem_cons, ← later]
      by_cases none : others = []
      · subst none
        have fails : ∃ error, ((choice []).parser verbosity rules rounds : Parser Value).Fails
            input error := ⟨_, Parser.fails_fail_iff.mpr rfl⟩
        exact (and_iff_left fails).symm
      · rw [parser_choice_cons first none]
        refine (exists_congr fun error => Parser.fails_orElse_iff).trans ?_
        rw [exists_and_left]

/-- The error of a choice is that of its last alternative. -/
theorem fails_choice_iff :
    ((choice alternatives).parser verbosity rules rounds).Fails input error ↔
      alternatives = [] ∧ error = .message "no alternatives" (some input.length) ∨
        ∃ before last, alternatives = before ++ [last] ∧
          (∀ alternative ∈ before,
            ∃ cause, (alternative.parser verbosity rules rounds).Fails input cause) ∧
          (last.parser verbosity rules rounds).Fails input error := by
  rcases alternatives.eq_nil_or_concat' with rfl | ⟨before, last, rfl⟩
  · refine Parser.fails_fail_iff.trans ?_
    simp only [true_and, List.nil_eq, List.append_eq_nil_iff, List.cons_ne_self, and_false,
      false_and, exists_false, or_false]
  · rw [parser_choice_append before (List.cons_ne_nil last [])]
    refine Parser.fails_orElse_iff.trans ?_
    rw [exists_fails_choice_iff]
    constructor
    · intro failed
      exact Or.inr ⟨before, last, rfl, failed⟩
    · intro failed
      rcases failed with ⟨none, _⟩ | ⟨_, _, same, failed⟩
      · exact absurd none (List.append_ne_nil_of_right_ne_nil before (List.cons_ne_nil last []))
      · rcases List.append_inj' same rfl with ⟨rfl, sameLast⟩
        cases sameLast
        exact failed

/-- A choice that does not fail ends as the first alternative that does not fail. -/
theorem outcome_choice_eq_iff {outcome : Except Halt (Result Value)}
    (decided : ∀ error, outcome ≠ .ok (.failure error)) :
    ((choice alternatives).parser verbosity rules rounds input).outcome = outcome ↔
      ∃ before chosen behind, alternatives = before ++ chosen :: behind ∧
        (∀ alternative ∈ before,
          ∃ error, (alternative.parser verbosity rules rounds).Fails input error) ∧
        (chosen.parser verbosity rules rounds input).outcome = outcome := by
  constructor
  · intro ended
    induction alternatives with
    | nil => exact absurd ended.symm (decided _)
    | cons first others later =>
        by_cases none : others = []
        · subst none
          exact ⟨[], first, [], rfl, nofun, ended⟩
        · rw [parser_choice_cons first none] at ended
          rcases (Parser.outcome_orElse_eq_iff decided).mp ended with firstEnded | ⟨failed, ended⟩
          · exact ⟨[], first, others, rfl, nofun, firstEnded⟩
          · rcases later ended with ⟨before, chosen, behind, rfl, earlier, chosenEnded⟩
            exact ⟨first :: before, chosen, behind, rfl,
              List.forall_mem_cons.mpr ⟨failed, earlier⟩, chosenEnded⟩
  · intro ended
    rcases ended with ⟨before, chosen, behind, rfl, earlier, chosenEnded⟩
    rw [parser_choice_append before (List.cons_ne_nil chosen behind)]
    refine (Parser.outcome_orElse_eq_iff decided).mpr
      (Or.inr ⟨exists_fails_choice_iff.mpr earlier, ?_⟩)
    by_cases none : behind = []
    · subst none
      exact chosenEnded
    · rw [parser_choice_cons chosen none]
      exact (Parser.outcome_orElse_eq_iff decided).mpr (Or.inl chosenEnded)

/-! ## Choice and sequence -/

theorem outcome_both_orElse (first second third : Grammar ν) (input : Stream) :
    ((first.both (second.orElse third)).parser verbosity rules rounds input).outcome =
      (((first.both second).orElse (first.both third)).parser verbosity rules rounds
        input).outcome := by
  have paired : ∀ other : Grammar ν, (first.both other).parser verbosity rules rounds =
      (first.parser verbosity rules rounds).bind fun value =>
        (other.parser verbosity rules rounds).map fun later => .tuple [value, later] :=
    fun other => Joint.parser_grammar .both first other verbosity rules rounds
  change _ = (Parser.orElse ((first.both second).parser verbosity rules rounds)
    ((first.both third).parser verbosity rules rounds) input).outcome
  rw [paired, paired, paired, ← Parser.outcome_bind_orElse]
  refine congrArg Run.outcome (congrFun (congrArg (Parser.bind _) (funext fun value => ?_)) _)
  exact Parser.map_orElse _ _ _

/-- Only the alternative that is chosen for the head is asked for in front of the tail. -/
theorem succeeds_orElse_of_both {first second third : Grammar ν}
    (success : (((first.orElse second).both third).parser verbosity rules rounds).Succeeds input
      value rest) :
    (((first.both third).orElse (second.both third)).parser verbosity rules rounds).Succeeds input
      value rest := by
  rcases succeeds_both_iff.mp success with ⟨earlier, later, middle, rfl, headSuccess, tailSuccess⟩
  refine Parser.succeeds_orElse_iff.mpr ?_
  rcases Parser.succeeds_orElse_iff.mp headSuccess with started | ⟨⟨cause, failed⟩, started⟩
  · exact Or.inl (succeeds_both_iff.mpr ⟨earlier, later, middle, rfl, started, tailSuccess⟩)
  · exact Or.inr ⟨⟨cause, fails_both_iff.mpr (Or.inl failed)⟩,
      succeeds_both_iff.mpr ⟨earlier, later, middle, rfl, started, tailSuccess⟩⟩

/-- Ordered choice.  A choice among any list of alternatives succeeds as the first of them that
succeeds at the input, where all in front of that one fail.  It does not return for the same
reason as the first alternative that does not, and it fails when all of them do, with the error
of the last one, or for want of any alternative.  A choice among two lists is the choice between
the two choices, with the same log, so all expressions over the same alternatives are one
parser.  A shared head may be taken out of two alternatives, whatever the three parts do.  A
shared tail may be moved into them where the whole succeeds. -/
theorem choices_are_ordered (verbosity : Verbosity) (rules : ν → Parser Value) (rounds : Nat)
    (input : Stream) :
    let meaning := Grammar.parser verbosity rules rounds
    (∀ alternatives : List (Grammar ν),
      (∀ value rest, (meaning (choice alternatives)).Succeeds input value rest ↔
        ∃ before chosen behind, alternatives = before ++ chosen :: behind ∧
          (∀ alternative ∈ before, ∃ error, (meaning alternative).Fails input error) ∧
          (meaning chosen).Succeeds input value rest) ∧
      (∀ error, (meaning (choice alternatives)).Fails input error ↔
        alternatives = [] ∧ error = .message "no alternatives" (some input.length) ∨
          ∃ before last, alternatives = before ++ [last] ∧
            (∀ alternative ∈ before, ∃ cause, (meaning alternative).Fails input cause) ∧
            (meaning last).Fails input error) ∧
      ∀ halt, (meaning (choice alternatives) input).outcome = .error halt ↔
        ∃ before halting behind, alternatives = before ++ halting :: behind ∧
          (∀ alternative ∈ before, ∃ error, (meaning alternative).Fails input error) ∧
          (meaning halting input).outcome = .error halt) ∧
    (∀ alternatives others : List (Grammar ν), others ≠ [] →
      meaning (choice (alternatives ++ others)) input =
        meaning ((choice alternatives).orElse (choice others)) input) ∧
    (∀ tree : ChoiceTree ν, meaning tree.grammar input = meaning (choice tree.leaves) input) ∧
    (∀ first second third : Grammar ν,
      (meaning (first.both (second.orElse third)) input).outcome =
        (meaning ((first.both second).orElse (first.both third)) input).outcome) ∧
    ∀ (first second third : Grammar ν) (value : Value) (rest : Stream),
      (meaning ((first.orElse second).both third)).Succeeds input value rest →
        (meaning ((first.both third).orElse (second.both third))).Succeeds input value rest := by
  intro meaning
  refine ⟨?_, ?_, ?_, ?_, ?_⟩
  · intro alternatives
    exact ⟨fun _ _ => outcome_choice_eq_iff nofun, fun _ => fails_choice_iff,
      fun _ => outcome_choice_eq_iff nofun⟩
  · intro alternatives others some
    exact congrFun (parser_choice_append alternatives some) input
  · intro tree
    exact congrFun tree.parser_grammar input
  · intro first second third
    exact outcome_both_orElse first second third input
  · intro first second third value rest success
    exact succeeds_orElse_of_both success

end Grammar

end OrderedChoice
