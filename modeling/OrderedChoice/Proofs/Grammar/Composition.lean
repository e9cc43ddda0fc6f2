import OrderedChoice.Proofs.Grammar.Remainder
import OrderedChoice.Proofs.Parser.Composition

/-!
# Properties of the runs of a grammar

Every run of a grammar is put together from what its parts do themselves: they call their
functions, write their records and raise their faults.  A compositional property that these
have on a region holds of every run of the grammar on the region, through all its parts and
through the rules that it enters.
-/

namespace OrderedChoice

namespace Grammar

variable {ν : Type} {property : ∀ {α : Type}, Run α → Prop} {region : Stream → Prop}
  {verbosity : Verbosity} {rounds : Nat}

/-- What this part does itself has the property wherever its own parts have it.  A function
is only called on what is read from a stream of the region. -/
def Upholds (property : ∀ {α : Type}, Run α → Prop) (region : Stream → Prop)
    (verbosity : Verbosity) (rules : ν → Parser Value) (rounds : Nat) : Grammar ν → Prop
  | .token select _ _ => ∀ input, region input → ∀ element, input.head? = some element →
      property (Run.ofExcept (select element))
  | .matching pattern => ∀ input, region input → property (Parser.matching pattern input)
  | .map f body => ∀ input, region input → ∀ value rest,
      (body.parser verbosity rules rounds).Succeeds input value rest →
      property (Run.ofExcept (f value))
  | .filter check body => ∀ input, region input → ∀ value rest,
      (body.parser verbosity rules rounds).Succeeds input value rest →
      property (Run.ofExcept (check value))
  | .chainLeftBy apply _ _ | .chainRightBy apply _ _ => ∀ operation first second,
      property (Run.ofExcept (apply operation first second))
  | .note label => ∀ input, region input → property (Parser.note verbosity label input)
  | .observed label body => ∀ input, region input →
      property (body.parser verbosity rules rounds input) →
      property (Parser.observed verbosity label body.describe
        (body.parser verbosity rules rounds) input)
  | .fault cause => property (Run.fault cause : Run (Result Value))
  | .custom _ parser => ∀ input, region input → property (parser input)
  | _ => True

section Parts

variable {rules : ν → Parser Value} {grammar : Grammar ν}

theorem holds_of_upholds (compositional : Run.IsCompositional property)
    (exhausts : ∀ {α : Type}, property (Run.exhausted : Run α)) (isRegion : Stream.IsRegion region)
    (upholds : grammar.Everywhere (Upholds property region verbosity rules rounds))
    (kept : grammar.Everywhere (KeepsRegion region))
    (rulesKeep : ∀ name, (rules name).Keeps region)
    (rulesHold : ∀ name input, region input → property (rules name input))
    (input : Stream) (member : region input) :
    property (grammar.parser verbosity rules rounds input) := by
  have keeps : ∀ {part : Grammar ν}, part.Everywhere (KeepsRegion region) →
      (part.parser verbosity rules rounds).Keeps region :=
    fun partKept => keeps_of_parts partKept rulesKeep isRegion
  induction grammar generalizing input with
  | pure value => exact compositional.accept value input
  | fail content => exact compositional.reject _
  | endOfInput => exact compositional.map (compositional.endOfInput input) _
  | token select expected display =>
      exact compositional.token (upholds input member) expected display
  | tokens literal expected display => exact compositional.tokens literal expected display input
  | matching pattern => exact upholds input member
  | rule name => exact rulesHold name input member
  | named name body holds => exact holds upholds.2 kept.2 input member
  | map f body holds =>
      exact compositional.mapM (holds upholds.2 kept.2 input member) (upholds.1 input member)
  | filter check body holds =>
      exact compositional.filter (holds upholds.2 kept.2 input member) (upholds.1 input member)
  | bind first next holds nextHolds =>
      refine compositional.onSuccess (holds upholds.2.1 kept.2.1 input member) ?_
      intro value middle success
      exact nextHolds value (upholds.2.2 value) (kept.2.2 value) middle
        (keeps kept.2.1 input member value middle success)
  | both first second holds secondHolds =>
      refine compositional.map (compositional.both (holds upholds.2.1 kept.2.1 input member) ?_) _
      intro value middle success
      exact secondHolds upholds.2.2 kept.2.2 middle
        (keeps kept.2.1 input member value middle success)
  | seqRight first second holds secondHolds =>
      refine compositional.seqRight (holds upholds.2.1 kept.2.1 input member) ?_
      intro value middle success
      exact secondHolds upholds.2.2 kept.2.2 middle
        (keeps kept.2.1 input member value middle success)
  | seqLeft first second holds secondHolds =>
      refine compositional.seqLeft (holds upholds.2.1 kept.2.1 input member) ?_
      intro value middle success
      exact secondHolds upholds.2.2 kept.2.2 middle
        (keeps kept.2.1 input member value middle success)
  | orElse first second holds secondHolds =>
      exact compositional.orElse (holds upholds.2.1 kept.2.1 input member) fun _ =>
        secondHolds upholds.2.2 kept.2.2 input member
  | exactly count body holds =>
      exact compositional.map
        (compositional.exactly (holds upholds.2 kept.2) (keeps kept.2) count member) _
  | repeated least combinator body holds =>
      exact compositional.map (compositional.repeated (holds upholds.2 kept.2) (keeps kept.2) least
        combinator input member) _
  | chainLeftBy apply term operator holds operatorHolds =>
      exact compositional.chainLeft exhausts (holds upholds.2.1 kept.2.1)
        (operatorHolds upholds.2.2 kept.2.2) (keeps kept.2.1) (keeps kept.2.2) upholds.1 rounds
        member
  | chainRightBy apply term operator holds operatorHolds =>
      exact compositional.chainRight exhausts (holds upholds.2.1 kept.2.1)
        (operatorHolds upholds.2.2 kept.2.2) (keeps kept.2.1) (keeps kept.2.2) upholds.1 rounds
        member
  | lookAhead body holds => exact compositional.lookAhead (holds upholds.2 kept.2 input member)
  | notFollowedBy body holds =>
      exact compositional.map
        (compositional.notFollowedBy (holds upholds.2 kept.2 input member) _) _
  | note label => exact compositional.map (upholds input member) _
  | observed label body holds =>
      exact upholds.1 input member (holds upholds.2 kept.2 input member)
  | fault cause => exact upholds
  | custom name parser => exact upholds input member

end Parts

/-! ## Rules -/

variable {rules : ν → Grammar ν} {grammar : Grammar ν}

/-- The rules have the property at every depth to which they are entered, when their parts
uphold it at every depth. -/
theorem holds_ruleParser (compositional : Run.IsCompositional property)
    (exhausts : ∀ {α : Type}, property (Run.exhausted : Run α)) (isRegion : Stream.IsRegion region)
    (upholds : ∀ depth name, (rules name).Everywhere
      (Upholds property region verbosity (ruleParser verbosity rules rounds depth) rounds))
    (kept : ∀ name, (rules name).Everywhere (KeepsRegion region)) (depth : Nat) (name : ν)
    (input : Stream) (member : region input) :
    property (ruleParser verbosity rules rounds depth name input) := by
  induction depth generalizing name input with
  | zero => exact exhausts
  | succ depth shallower =>
      exact holds_of_upholds compositional exhausts isRegion (upholds depth name) (kept name)
        (keeps_ruleParser_of_parts kept isRegion depth) shallower input member

theorem holds_parserWithin {bound : Nat} (compositional : Run.IsCompositional property)
    (exhausts : ∀ {α : Type}, property (Run.exhausted : Run α)) (isRegion : Stream.IsRegion region)
    (rulesUphold : ∀ depth name, (rules name).Everywhere
      (Upholds property region verbosity (ruleParser verbosity rules bound depth) bound))
    (upholds : grammar.Everywhere
      (Upholds property region verbosity (ruleParser verbosity rules bound bound) bound))
    (rulesKept : ∀ name, (rules name).Everywhere (KeepsRegion region))
    (kept : grammar.Everywhere (KeepsRegion region)) {input : Stream} (member : region input) :
    property (grammar.parserWithin bound verbosity rules input) :=
  holds_of_upholds compositional exhausts isRegion upholds kept
    (keeps_ruleParser_of_parts rulesKept isRegion bound)
    (holds_ruleParser compositional exhausts isRegion rulesUphold rulesKept bound) input member

/-- A property that the parts uphold on all streams holds of every run. -/
theorem holds_of_upholds_everywhere {bound : Nat} (compositional : Run.IsCompositional property)
    (exhausts : ∀ {α : Type}, property (Run.exhausted : Run α))
    (rulesUphold : ∀ depth name, (rules name).Everywhere
      (Upholds property (fun _ => True) verbosity (ruleParser verbosity rules bound depth) bound))
    (upholds : grammar.Everywhere
      (Upholds property (fun _ => True) verbosity (ruleParser verbosity rules bound bound) bound))
    (input : Stream) : property (grammar.parserWithin bound verbosity rules input) := by
  have keepsAll : ∀ part : Grammar ν, part.KeepsRegion fun _ => True := by
    intro part
    cases part with
    | custom => exact fun _ _ _ _ _ => trivial
    | _ => trivial
  exact holds_parserWithin compositional exhausts (fun _ _ _ => trivial) rulesUphold upholds
    (fun name => (rulesUphold 0 name).mono fun part _ => keepsAll part)
    (upholds.mono fun part _ => keepsAll part) trivial

end Grammar

end OrderedChoice
