import OrderedChoice.Proofs.Grammar.Composition
import OrderedChoice.Proofs.Parser.Fault
import OrderedChoice.Proofs.Parser.Report

/-!
# What grammars report

What a composed grammar may report on a region is settled by the errors that its parts make
themselves there, and the faults it may end in are those that its callbacks raise.
-/

namespace OrderedChoice

namespace Grammar

variable {ν : Type} {region : Stream → Prop} {reported : ParseError → Prop} {cause : Fault}
  {verbosity : Verbosity} {rounds : Nat} {rules : ν → Grammar ν} {grammar : Grammar ν}

/-! ## Errors -/

/-- The errors that this part of a composed grammar makes itself, and does not pass on from
a part of its own, belong to the class.  A check only sees what its part matches. -/
def MakesOnly (region : Stream → Prop) (reported : ParseError → Prop) : Grammar ν → Prop
  | .fail content => (Parser.fail content : Parser Value).Reports region reported
  | .endOfInput => Parser.endOfInput.Reports region reported
  | .token select expected display =>
      (Parser.token select expected display).Reports region reported
  | .tokens literal expected display =>
      (Parser.tokens literal expected display).Reports region reported
  | .matching pattern => (Parser.matching pattern).Reports region reported
  | .filter check body => ∀ input, region input → ∀ value,
      (∃ verbosity rules rounds rest,
        (body.parser verbosity rules rounds).Succeeds input value rest) →
      ∀ error, check value = .ok (some error) → reported (error.located input.length)
  | .repeated _ combinator _ => ∀ input, region input →
      reported (.zeroWidth combinator (some input.length))
  | .notFollowedBy _ => ∀ input, region input → ∀ value : Value,
      reported (.message ("unexpected " ++ value.shown) (some input.length))
  | .custom _ _ => False
  | _ => True

theorem IsComposed.of_makesOnly {part : Grammar ν} (makes : part.MakesOnly region reported) :
    part.IsComposed := by
  cases part with
  | custom => exact makes
  | _ => trivial

theorem reports_of_makesOnly {rules : ν → Parser Value}
    (makes : grammar.Everywhere (MakesOnly region reported)) (isRegion : Stream.IsRegion region)
    (rulesKeep : ∀ name, (rules name).Keeps region)
    (rulesReport : ∀ name, (rules name).Reports region reported) :
    (grammar.parser verbosity rules rounds).Reports region reported := by
  -- An error behind a first part arises on what this part leaves.
  have keeps : ∀ {part : Grammar ν}, part.Everywhere (MakesOnly region reported) →
      (part.parser verbosity rules rounds).Keeps region := by
    intro part partMakes
    exact keeps_of_composed (partMakes.mono fun _ => IsComposed.of_makesOnly) rulesKeep isRegion
  induction grammar with
  | pure value => exact Parser.reports_pure value
  | fail => exact makes
  | endOfInput => exact Parser.Reports.map makes _
  | token => exact makes
  | tokens => exact makes
  | matching => exact makes
  | rule name => exact rulesReport name
  | named name body reports => exact reports makes.2
  | map f body reports => exact (reports makes.2).mapM f
  | filter check body reports =>
      refine (reports makes.2).filter ?_
      intro input member value rest success
      exact makes.1 input member value ⟨verbosity, rules, rounds, rest, success⟩
  | bind first next reports nextReports =>
      exact (reports makes.2.1).bind (keeps makes.2.1) fun value =>
        nextReports value (makes.2.2 value)
  | both first second reports secondReports =>
      exact ((reports makes.2.1).both (keeps makes.2.1) (secondReports makes.2.2)).map _
  | seqRight first second reports secondReports =>
      exact (reports makes.2.1).seqRight (keeps makes.2.1) (secondReports makes.2.2)
  | seqLeft first second reports secondReports =>
      exact (reports makes.2.1).seqLeft (keeps makes.2.1) (secondReports makes.2.2)
  | orElse first second _ secondReports => exact (secondReports makes.2.2).orElse _
  | exactly count body reports =>
      exact ((reports makes.2).exactly (keeps makes.2) count).map _
  | repeated least combinator body reports =>
      exact Parser.Reports.map ((reports makes.2).repeated (keeps makes.2) makes.1 least) _
  | chainLeftBy apply term operator reports =>
      exact (reports makes.2.1).chainLeft (keeps makes.2.1) (keeps makes.2.2) rounds apply
  | chainRightBy apply term operator reports =>
      exact (reports makes.2.1).chainRight (keeps makes.2.1) (keeps makes.2.2) rounds apply
  | lookAhead body reports => exact (reports makes.2).lookAhead
  | notFollowedBy body => exact (Parser.reports_notFollowedBy _ _ makes.1).map _
  | note label => exact (Parser.reports_note verbosity label).map _
  | observed label body reports => exact (reports makes.2).observed verbosity label _
  | fault cause => exact Parser.reports_fault cause
  | custom => exact absurd makes id

theorem reports_ruleParser (makes : ∀ name, (rules name).Everywhere (MakesOnly region reported))
    (isRegion : Stream.IsRegion region) (depth : Nat) (name : ν) :
    (ruleParser verbosity rules rounds depth name).Reports region reported := by
  have composed : ∀ name, (rules name).Everywhere IsComposed := fun name =>
    (makes name).mono fun _ => IsComposed.of_makesOnly
  induction depth generalizing name with
  | zero =>
      intro input _ error failure
      cases failure
  | succ depth shallower =>
      exact reports_of_makesOnly (makes name) isRegion (keeps_ruleParser composed isRegion depth)
        shallower

/-- A grammar reports on a region only what its parts and its rules make there. -/
theorem reports_parserWithin
    (rulesMake : ∀ name, (rules name).Everywhere (MakesOnly region reported))
    (makes : grammar.Everywhere (MakesOnly region reported)) (isRegion : Stream.IsRegion region)
    (bound : Nat) : (grammar.parserWithin bound verbosity rules).Reports region reported := by
  have composed : ∀ name, (rules name).Everywhere IsComposed := fun name =>
    (rulesMake name).mono fun _ => IsComposed.of_makesOnly
  exact reports_of_makesOnly makes isRegion (keeps_ruleParser composed isRegion bound)
    (reports_ruleParser rulesMake isRegion bound)

/-! ## Faults -/

/-- No callback of this part raises the fault. -/
def NeverRaises (cause : Fault) : Grammar ν → Prop
  | .token select _ _ => ∀ element, select element ≠ .error cause
  | .matching pattern => (Parser.matching pattern).Avoids cause
  | .map f _ => ∀ value, f value ≠ .error cause
  | .filter check _ => ∀ value, check value ≠ .error cause
  | .chainLeftBy apply _ _ | .chainRightBy apply _ _ =>
      ∀ operation first second, apply operation first second ≠ .error cause
  | .fault other => other ≠ cause
  | .custom _ parser => parser.Avoids cause
  | _ => True

theorem upholds_of_neverRaises {rules : ν → Parser Value} {part : Grammar ν}
    (never : part.NeverRaises cause) :
    part.Upholds (Run.HaltsOnly (· ≠ .fault cause)) (fun _ => True) verbosity rules rounds := by
  -- What a callback returns an error with is what its run ends in.
  have called : ∀ {α : Type} {callback : Except Fault α}, callback ≠ .error cause →
      Run.HaltsOnly (· ≠ .fault cause) (Run.ofExcept callback) := by
    intro α callback returns
    refine Run.haltsOnly_ofExcept ?_
    intro other raised same
    cases same
    exact returns raised
  cases part with
  | token select expected display => exact fun _ _ element _ => called (never element)
  | matching pattern => exact fun input _ => Parser.avoids_iff.mp never input
  | map f body => exact fun _ _ value _ _ => called (never value)
  | filter check body => exact fun _ _ value _ _ => called (never value)
  | chainLeftBy | chainRightBy =>
      exact fun operation first second => called (never operation first second)
  | note label =>
      intro input _ halt ended
      cases ended
  | observed label body =>
      intro input _ holds halt ended
      rw [Parser.outcome_observed] at ended
      exact holds halt ended
  | fault other =>
      refine Run.haltsOnly_fault ?_
      intro same
      cases same
      exact never rfl
  | custom name parser => exact fun input _ => Parser.avoids_iff.mp never input
  | _ => trivial

/-- A grammar ends in a fault only where a callback of its own or of its rules raises it. -/
theorem avoids_parserWithin (rulesNever : ∀ name, (rules name).Everywhere (NeverRaises cause))
    (never : grammar.Everywhere (NeverRaises cause)) (bound : Nat) :
    (grammar.parserWithin bound verbosity rules).Avoids cause := by
  refine Parser.avoids_iff.mpr (holds_of_upholds_everywhere
    (Run.isCompositional_haltsOnly (· ≠ .fault cause)) (Run.haltsOnly_exhausted nofun) ?_ ?_)
  · intro depth name
    exact (rulesNever name).mono fun _ => upholds_of_neverRaises
  · exact never.mono fun _ => upholds_of_neverRaises

end Grammar

end OrderedChoice
