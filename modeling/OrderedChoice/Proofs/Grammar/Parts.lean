import OrderedChoice.Grammar.Derived

/-!
# Conditions on the parts of a grammar

Statements about all grammars of some shape ask for a condition at every part of a grammar.
The parts include every grammar that a `bind` may continue with, whatever the value it is
given.  A rule is a part by its name only, so the bodies of the rules are asked for on
their own.
-/

namespace OrderedChoice

namespace Grammar

variable {ν : Type} {condition stronger : Grammar ν → Prop} {grammar : Grammar ν}

/-- The condition holds of the grammar and of all its parts. -/
def Everywhere (condition : Grammar ν → Prop) : Grammar ν → Prop
  | .named name body => condition (.named name body) ∧ body.Everywhere condition
  | .map f body => condition (.map f body) ∧ body.Everywhere condition
  | .filter check body => condition (.filter check body) ∧ body.Everywhere condition
  | .bind first next =>
      condition (.bind first next) ∧ first.Everywhere condition ∧
        ∀ value, (next value).Everywhere condition
  | .both first second =>
      condition (.both first second) ∧ first.Everywhere condition ∧ second.Everywhere condition
  | .seqRight first second =>
      condition (.seqRight first second) ∧ first.Everywhere condition ∧ second.Everywhere condition
  | .seqLeft first second =>
      condition (.seqLeft first second) ∧ first.Everywhere condition ∧ second.Everywhere condition
  | .orElse first second =>
      condition (.orElse first second) ∧ first.Everywhere condition ∧ second.Everywhere condition
  | .exactly count body => condition (.exactly count body) ∧ body.Everywhere condition
  | .repeated least combinator body =>
      condition (.repeated least combinator body) ∧ body.Everywhere condition
  | .chainLeftBy apply term operator =>
      condition (.chainLeftBy apply term operator) ∧ term.Everywhere condition ∧
        operator.Everywhere condition
  | .chainRightBy apply term operator =>
      condition (.chainRightBy apply term operator) ∧ term.Everywhere condition ∧
        operator.Everywhere condition
  | .lookAhead body => condition (.lookAhead body) ∧ body.Everywhere condition
  | .notFollowedBy body => condition (.notFollowedBy body) ∧ body.Everywhere condition
  | .observed label body => condition (.observed label body) ∧ body.Everywhere condition
  | grammar => condition grammar

theorem Everywhere.mono (weaker : ∀ part, stronger part → condition part)
    (holds : grammar.Everywhere stronger) : grammar.Everywhere condition := by
  induction grammar with
  | bind first next firstHolds nextHolds =>
      exact ⟨weaker _ holds.1, firstHolds holds.2.1, fun value =>
        nextHolds value (holds.2.2 value)⟩
  | named | map | filter | exactly | repeated | lookAhead | notFollowedBy | observed =>
      rename_i bodyHolds
      exact ⟨weaker _ holds.1, bodyHolds holds.2⟩
  | both | seqRight | seqLeft | orElse | chainLeftBy | chainRightBy =>
      rename_i firstHolds secondHolds
      exact ⟨weaker _ holds.1, firstHolds holds.2.1, secondHolds holds.2.2⟩
  | _ => exact weaker _ holds

/-- The parts of a part are parts. -/
theorem Everywhere.nested (holds : grammar.Everywhere condition) :
    grammar.Everywhere fun part => part.Everywhere condition := by
  induction grammar with
  | bind first next firstNested nextNested =>
      exact ⟨holds, firstNested holds.2.1, fun value => nextNested value (holds.2.2 value)⟩
  | named | map | filter | exactly | repeated | lookAhead | notFollowedBy | observed =>
      rename_i bodyNested
      exact ⟨holds, bodyNested holds.2⟩
  | both | seqRight | seqLeft | orElse | chainLeftBy | chainRightBy =>
      rename_i firstNested secondNested
      exact ⟨holds, firstNested holds.2.1, secondNested holds.2.2⟩
  | _ => exact holds

/-- Whatever holds everywhere in the grammar holds of its part. -/
def IsPart (part grammar : Grammar ν) : Prop :=
  ∀ condition : Grammar ν → Prop, grammar.Everywhere condition → condition part

/-- Not a parser from outside. -/
def IsComposed : Grammar ν → Prop
  | .custom _ _ => False
  | _ => True

/-! ## Derived combinators over lists -/

theorem everywhere_foldl {combine : Grammar ν → Grammar ν → Grammar ν}
    (closed : ∀ first second, first.Everywhere condition → second.Everywhere condition →
      (combine first second).Everywhere condition)
    {others : List (Grammar ν)} (holds : grammar.Everywhere condition)
    (othersHold : ∀ other ∈ others, other.Everywhere condition) :
    (others.foldl combine grammar).Everywhere condition := by
  induction others generalizing grammar with
  | nil => exact holds
  | cons other others later =>
      rw [List.forall_mem_cons] at othersHold
      exact later (closed grammar other holds othersHold.1) othersHold.2

theorem everywhere_choice {alternatives : List (Grammar ν)}
    (fails : condition (.fail "no alternatives"))
    (chooses : ∀ first second, condition (.orElse first second))
    (holds : ∀ alternative ∈ alternatives, alternative.Everywhere condition) :
    (choice alternatives).Everywhere condition := by
  cases alternatives with
  | nil => exact fails
  | cons first others =>
      rw [List.forall_mem_cons] at holds
      refine everywhere_foldl ?_ holds.1 holds.2
      intro first second firstHolds secondHolds
      exact ⟨chooses first second, firstHolds, secondHolds⟩

theorem composed_choice {alternatives : List (Grammar ν)}
    (composed : ∀ alternative ∈ alternatives, alternative.Everywhere IsComposed) :
    (choice alternatives).Everywhere IsComposed :=
  everywhere_choice trivial (fun _ _ => trivial) composed

theorem composed_sequence {others : List (Grammar ν)}
    (composed : grammar.Everywhere IsComposed)
    (othersComposed : ∀ other ∈ others, other.Everywhere IsComposed) :
    (sequence grammar others).Everywhere IsComposed := by
  refine ⟨trivial, everywhere_foldl ?_ composed othersComposed⟩
  intro first second firstComposed secondComposed
  exact ⟨trivial, firstComposed, secondComposed⟩

end Grammar

end OrderedChoice
