import OrderedChoice.Grammar.Rules
import OrderedChoice.Proofs.Grammar.Parts
import OrderedChoice.Proofs.Parser.Simulation

/-!
# Tracing

A note and an observed part of a grammar measure and show what they are given, and write it to
the log.  They never decide anything.  Here they are taken out of a grammar: nothing is left of
a note, and an observed part is left as it is.  The grammar without them ends as the traced one
does, with the same result or in the same fault, whether the records of the traced one are kept
or not.
-/

namespace OrderedChoice

namespace Parser

variable {α : Type} {parser other : Parser α}

/-- On equal inputs a simulation that tracks every halt is equality of outcomes. -/
theorem simulation_eq_iff :
    Simulation Eq (fun _ => True) parser other ↔
      ∀ input, (other input).outcome = (parser input).outcome := by
  constructor
  · intro simulation input
    exact (simulation input input rfl).outcome_eq fun _ _ same => same
  · intro same input image alike
    subst alike
    rw [same input]
    cases (parser input).outcome with
    | error halt => exact fun _ => rfl
    | ok result =>
        cases result with
        | failure error => exact carries_reject error
        | success value rest => exact carries_accept value rfl

end Parser

namespace Grammar

variable {ν : Type} {verbosity otherVerbosity : Verbosity} {rounds : Nat}

/-- The grammar without its notes and without anything that observes its parts. -/
def untraced : Grammar ν → Grammar ν
  | .pure value => .pure value
  | .fail content => .fail content
  | .endOfInput => .endOfInput
  | .token select expected display => .token select expected display
  | .tokens literal expected display => .tokens literal expected display
  | .matching pattern => .matching pattern
  | .rule name => .rule name
  | .named name body => .named name body.untraced
  | .map f body => .map f body.untraced
  | .filter check body => .filter check body.untraced
  | .bind first next => .bind first.untraced fun value => (next value).untraced
  | .both first second => .both first.untraced second.untraced
  | .seqRight first second => .seqRight first.untraced second.untraced
  | .seqLeft first second => .seqLeft first.untraced second.untraced
  | .orElse first second => .orElse first.untraced second.untraced
  | .exactly count body => .exactly count body.untraced
  | .repeated least combinator body => .repeated least combinator body.untraced
  | .chainLeftBy apply term operator => .chainLeftBy apply term.untraced operator.untraced
  | .chainRightBy apply term operator => .chainRightBy apply term.untraced operator.untraced
  | .lookAhead body => .lookAhead body.untraced
  | .notFollowedBy body => .notFollowedBy body.untraced
  | .note _ => .pure .nothing
  | .observed _ body => body.untraced
  | .fault cause => .fault cause
  | .custom name parser => .custom name parser

/-- Neither a note nor an observed part. -/
def IsUntraced : Grammar ν → Prop
  | .note _ | .observed _ _ => False
  | _ => True

theorem isUntraced_untraced (grammar : Grammar ν) : grammar.untraced.Everywhere IsUntraced := by
  induction grammar with
  | bind first next firstUntraced nextUntraced => exact ⟨trivial, firstUntraced, nextUntraced⟩
  | named | map | filter | exactly | repeated | lookAhead | notFollowedBy =>
      rename_i bodyUntraced
      exact ⟨trivial, bodyUntraced⟩
  | both | seqRight | seqLeft | orElse | chainLeftBy | chainRightBy =>
      rename_i firstUntraced secondUntraced
      exact ⟨trivial, firstUntraced, secondUntraced⟩
  | observed label body bodyUntraced => exact bodyUntraced
  | _ => exact trivial

/-! ## Ending alike -/

/-- The grammar without its tracing ends as the grammar itself, when its rules end as the rules
of the grammar do. -/
theorem simulation_untraced {rules otherRules : ν → Parser Value}
    (rulesSimulate : ∀ name, Parser.Simulation Eq (fun _ => True) (rules name) (otherRules name))
    (grammar : Grammar ν) :
    Parser.Simulation Eq (fun _ => True) (grammar.parser verbosity rules rounds)
      (grammar.untraced.parser otherVerbosity otherRules rounds) := by
  have sameLength : ∀ input image : Stream, input = image → input.length = image.length :=
    fun _ _ same => congrArg Stream.length same
  have itself : ∀ parser : Parser Value, Parser.Simulation Eq (fun _ => True) parser parser :=
    fun _ => Parser.simulation_eq_iff.mpr fun _ => rfl
  induction grammar with
  | pure | fail | endOfInput | token | tokens | matching | fault | custom => exact itself _
  | rule name => exact rulesSimulate name
  | named name body simulates => exact simulates
  | map f body simulates => exact simulates.mapM f
  | filter check body simulates => exact simulates.filter sameLength check
  | bind first next simulates nextSimulates => exact simulates.bind nextSimulates
  | both first second simulates secondSimulates => exact (simulates.both secondSimulates).map _
  | seqRight first second simulates secondSimulates => exact simulates.seqRight secondSimulates
  | seqLeft first second simulates secondSimulates => exact simulates.seqLeft secondSimulates
  | orElse first second simulates secondSimulates => exact simulates.orElse secondSimulates
  | exactly count body simulates => exact (simulates.exactly count).map _
  | repeated least combinator body simulates =>
      exact (simulates.repeated sameLength least combinator).map _
  | chainLeftBy apply term operator simulates operatorSimulates =>
      exact simulates.chainLeft operatorSimulates rounds apply
  | chainRightBy apply term operator simulates operatorSimulates =>
      exact simulates.chainRight operatorSimulates rounds apply
  | lookAhead body simulates => exact simulates.lookAhead
  | notFollowedBy body simulates => exact (simulates.notFollowedBy sameLength _).map _
  | note label => exact Parser.simulation_eq_iff.mpr fun _ => rfl
  | observed label body simulates =>
      refine Parser.simulation_eq_iff.mpr ?_
      intro input
      refine (Parser.simulation_eq_iff.mp simulates input).trans ?_
      exact Parser.outcome_observed.symm

theorem simulation_untraced_ruleParser (rules : ν → Grammar ν) (depth : Nat) (name : ν) :
    Parser.Simulation Eq (fun _ => True) (ruleParser verbosity rules rounds depth name)
      (ruleParser otherVerbosity (fun name => (rules name).untraced) rounds depth name) := by
  induction depth generalizing name with
  | zero => exact Parser.simulation_eq_iff.mpr fun _ => rfl
  | succ depth shallower => exact simulation_untraced shallower (rules name)

theorem outcome_untraced (bound : Nat) (verbosity otherVerbosity : Verbosity)
    (rules : ν → Grammar ν) (grammar : Grammar ν) (input : Stream) :
    (grammar.untraced.parserWithin bound otherVerbosity (fun name => (rules name).untraced)
        input).outcome =
      (grammar.parserWithin bound verbosity rules input).outcome :=
  Parser.simulation_eq_iff.mp
    (simulation_untraced (simulation_untraced_ruleParser rules bound) grammar) input

/-- Tracing is transparent.  A grammar and its rules without their notes and observers, at any
verbosity, end on every input as the traced ones do: with the same result or in the same fault.
The same holds of the traced ones themselves, whether their records are kept or not. -/
theorem tracing_is_transparent (bound : Nat) (verbosity otherVerbosity : Verbosity)
    (rules : ν → Grammar ν) (grammar : Grammar ν) (input : Stream) :
    (grammar.untraced.Everywhere IsUntraced ∧ ∀ name, (rules name).untraced.Everywhere IsUntraced) ∧
      (grammar.untraced.parserWithin bound otherVerbosity (fun name => (rules name).untraced)
          input).outcome =
        (grammar.parserWithin bound verbosity rules input).outcome ∧
      (grammar.parserWithin bound otherVerbosity rules input).outcome =
        (grammar.parserWithin bound verbosity rules input).outcome := by
  have withoutTraces : ∀ part : Grammar ν, part.untraced.Everywhere IsUntraced :=
    isUntraced_untraced
  have untracedEnds := outcome_untraced bound verbosity otherVerbosity rules grammar input
  -- The grammar without its tracing ends in one way, and at both verbosities as the traced one.
  have otherEnds := outcome_untraced bound otherVerbosity otherVerbosity rules grammar input
  exact ⟨⟨withoutTraces grammar, fun name => withoutTraces (rules name)⟩, untracedEnds,
    otherEnds.symm.trans untracedEnds⟩

end Grammar

end OrderedChoice
