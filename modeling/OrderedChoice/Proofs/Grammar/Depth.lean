import OrderedChoice.Grammar.Rules
import OrderedChoice.Proofs.Parser.Simulation

/-!
# Runs that are bounded less

A run within a bound either ends, with a result or in a fault, or it uses up the bound.  If it
ends, then every larger bound leads to the same end.  This holds of all grammars, parsers from
outside included, and for each input on its own.  So it makes sense to say how a grammar ends
without saying within which bound.
-/

namespace OrderedChoice

namespace Parser

variable {α : Type} {deeper parser : Parser α}

/-- Wherever the other parser does not use up its bound, this one ends as that one does. -/
def Outlasts (deeper parser : Parser α) : Prop :=
  ∀ input, (parser input).outcome ≠ .error .exhausted →
    (deeper input).outcome = (parser input).outcome

theorem outlasts_iff :
    deeper.Outlasts parser ↔ Simulation Eq (· ≠ .exhausted) parser deeper := by
  constructor
  · intro outlasts input image alike
    subst alike
    have same := outlasts input
    cases ended : (parser input).outcome with
    | error halt =>
        intro bounded
        rw [same (fun impossible => bounded (Except.error.inj (ended.symm.trans impossible))), ended]
    | ok result =>
        rw [ended] at same
        rw [same nofun]
        cases result with
        | failure error => exact carries_reject error
        | success value rest => exact carries_accept value rfl
  · intro simulation input bounded
    have carries := simulation input input rfl
    cases ended : (parser input).outcome with
    | error halt =>
        rw [ended] at carries bounded
        exact carries fun exhausted => bounded (congrArg Except.error exhausted)
    | ok result =>
        rw [ended] at carries
        cases result with
        | failure error => exact carries
        | success value rest =>
            rcases carries with ⟨final, ended, rfl⟩
            exact ended

theorem Outlasts.refl (parser : Parser α) : parser.Outlasts parser := fun _ _ => rfl

end Parser

namespace Grammar

variable {ν : Type} {verbosity : Verbosity} {rounds more depth deeper bound larger : Nat}

/-- A grammar lasts longer when its rules do and its chains may take more rounds. -/
theorem outlasts_of_rules {rules deeperRules : ν → Parser Value} (enough : rounds ≤ more)
    (rulesOutlast : ∀ name, (deeperRules name).Outlasts (rules name)) (grammar : Grammar ν) :
    (grammar.parser verbosity deeperRules more).Outlasts
      (grammar.parser verbosity rules rounds) := by
  have sameLength : ∀ input image : Stream, input = image → input.length = image.length :=
    fun _ _ same => congrArg Stream.length same
  have untracked : Halt.exhausted ≠ .exhausted → rounds = more := fun impossible =>
    absurd rfl impossible
  refine Parser.outlasts_iff.mpr ?_
  induction grammar with
  | pure | fail | endOfInput | token | tokens | matching | note | fault | custom =>
      exact Parser.outlasts_iff.mp (.refl _)
  | rule name => exact Parser.outlasts_iff.mp (rulesOutlast name)
  | named name body simulates => exact simulates
  | map f body simulates => exact simulates.mapM f
  | filter check body simulates => exact simulates.filter sameLength check
  | bind first next simulates nextSimulates => exact simulates.bind nextSimulates
  | both first second simulates secondSimulates => exact (simulates.both secondSimulates).map _
  | seqRight first second simulates secondSimulates => exact simulates.seqRight secondSimulates
  | seqLeft first second simulates secondSimulates => exact simulates.seqLeft secondSimulates
  | orElse first second simulates secondSimulates => exact simulates.orElse secondSimulates
  | exactly count body simulates => exact (simulates.exactly count).map _
  | repeated least combinator body simulates =>
      exact (simulates.repeated sameLength least combinator).map _
  | chainLeftBy apply term operator simulates operatorSimulates =>
      exact simulates.chainLeft_of_le operatorSimulates enough untracked apply
  | chainRightBy apply term operator simulates operatorSimulates =>
      exact simulates.chainRight_of_le operatorSimulates enough untracked apply
  | lookAhead body simulates => exact simulates.lookAhead
  | notFollowedBy body simulates => exact (simulates.notFollowedBy sameLength _).map _
  | observed label body simulates => exact simulates.observed verbosity verbosity label _ label _

theorem outlasts_ruleParser {rules : ν → Grammar ν} (enough : rounds ≤ more)
    (within : depth ≤ deeper) (name : ν) :
    (ruleParser verbosity rules more deeper name).Outlasts
      (ruleParser verbosity rules rounds depth name) := by
  induction depth generalizing deeper name with
  | zero => exact fun _ impossible => absurd rfl impossible
  | succ depth shallower =>
      rcases Nat.exists_eq_add_of_le' within with ⟨extra, rfl⟩
      exact outlasts_of_rules enough (shallower (Nat.le_add_left depth extra)) (rules name)

theorem outlasts_parserWithin (within : bound ≤ larger) (verbosity : Verbosity)
    (rules : ν → Grammar ν) (grammar : Grammar ν) :
    (grammar.parserWithin larger verbosity rules).Outlasts
      (grammar.parserWithin bound verbosity rules) :=
  outlasts_of_rules within (outlasts_ruleParser within within) grammar

/-! ## Ends -/

variable {rules : ν → Grammar ν} {grammar : Grammar ν} {input : Stream}

/-- How a grammar ends on an input when its bound is large enough. -/
def Ends (verbosity : Verbosity) (rules : ν → Grammar ν) (grammar : Grammar ν)
    (input : Stream) (outcome : Except Halt (Result Value)) : Prop :=
  outcome ≠ .error .exhausted ∧
    ∃ bound, (grammar.parserWithin bound verbosity rules input).outcome = outcome

/-- A grammar ends in one way at most. -/
theorem Ends.unique {outcome other : Except Halt (Result Value)}
    (ends : grammar.Ends verbosity rules input outcome)
    (otherEnds : grammar.Ends verbosity rules input other) : outcome = other := by
  rcases ends with ⟨bounded, bound, rfl⟩
  rcases otherEnds with ⟨otherBounded, otherBound, rfl⟩
  have first := outlasts_parserWithin (Nat.le_max_left bound otherBound) verbosity rules grammar
    input bounded
  have second := outlasts_parserWithin (Nat.le_max_right bound otherBound) verbosity rules grammar
    input otherBounded
  exact first.symm.trans second

end Grammar

end OrderedChoice
