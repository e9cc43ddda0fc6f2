import OrderedChoice.Proofs.Parser.Simulation

/-!
# Refinement of parsers

A parser refines another one on a region when it returns whatever the other one returns
there.  It may return on more inputs, which is what a larger bound on the depth of rules or
on the rounds of a chain leads to.
-/

namespace OrderedChoice

namespace Parser

variable {α ω : Type} {region : Stream → Prop} {parser finer finest : Parser α}

/-- On the region the second parser returns whatever the first one returns, and what that
leaves is in the region. -/
def Refines (region : Stream → Prop) (parser finer : Parser α) : Prop :=
  Simulation (fun input image => input = image ∧ region input) (fun _ => False) parser finer

theorem refines_iff : Refines region parser finer ↔
    parser.Keeps region ∧ ∀ input, region input → ∀ result,
      (parser input).outcome = .ok result → (finer input).outcome = .ok result := by
  constructor
  · intro refines
    constructor
    · intro input member value rest success
      have carries := refines input input ⟨rfl, member⟩
      rw [success] at carries
      rcases carries with ⟨final, _, _, kept⟩
      exact kept
    · intro input member result returned
      have carries := refines input input ⟨rfl, member⟩
      rw [returned] at carries
      cases result with
      | failure error => exact carries
      | success value rest =>
          rcases carries with ⟨final, returned, rfl, _⟩
          exact returned
  · intro refines input image alike
    rcases refines with ⟨kept, returns⟩
    rcases alike with ⟨rfl, member⟩
    cases returned : (parser input).outcome with
    | error halt => exact False.elim
    | ok result =>
        cases result with
        | failure error => exact returns input member _ returned
        | success value rest =>
            have restMember := kept input member value rest returned
            exact ⟨rest, returns input member _ returned, rfl, restMember⟩

/-- A parser refines itself where it stays. -/
theorem Keeps.refines (kept : parser.Keeps region) : Refines region parser parser :=
  refines_iff.mpr ⟨kept, fun _ _ _ returned => returned⟩

theorem Refines.returns (refines : Refines region parser finer) {input : Stream}
    (member : region input) {result : Result α} (returned : (parser input).outcome = .ok result) :
    (finer input).outcome = .ok result :=
  (refines_iff.mp refines).2 input member result returned

theorem Refines.trans (refines : Refines region parser finer)
    (further : Refines region finer finest) : Refines region parser finest := by
  refine refines_iff.mpr ⟨(refines_iff.mp refines).1, ?_⟩
  intro input member result returned
  exact further.returns member (refines.returns member returned)

/-- A parser that never returns is refined by any other. -/
theorem refines_of_never (never : ∀ input result, (parser input).outcome ≠ .ok result)
    (finer : Parser α) : Refines region parser finer := by
  refine refines_iff.mpr ⟨?_, ?_⟩
  · intro input _ value rest success
    exact absurd success (never input _)
  · intro input _ result returned
    exact absurd returned (never input result)

theorem same_length {input image : Stream} (alike : input = image ∧ region input) :
    input.length = image.length := by
  rw [alike.1]

/-! ## Chains of different rounds -/

variable {term finerTerm : Parser α} {operator finerOperator : Parser ω}

theorem Linked.refined {input rest : Stream} {found : List (ω × α)}
    (linked : Linked term operator input found rest)
    (refines : Refines region term finerTerm)
    (operatorRefines : Refines region operator finerOperator) (member : region input) :
    Linked finerTerm finerOperator input found rest := by
  have kept := (refines_iff.mp refines).1
  have operatorKept := (refines_iff.mp operatorRefines).1
  induction linked with
  | none input => exact .none input
  | link operated followed _ later =>
      have behind := operatorKept _ member _ _ operated
      exact .link (operatorRefines.returns member operated) (refines.returns behind followed)
        (later (kept _ behind _ _ followed))

/-- The terms and operators of a chain leave rests of their inputs, and the region has no
inputs so long that a chain could need more rounds than there are. -/
structure Roomy (region : Stream → Prop) (rounds : Nat) (term : Parser α)
    (operator : Parser ω) : Prop where
  room : ∀ input, region input → input.length < rounds
  termLeaves : ∀ input value rest, term.Succeeds input value rest → rest.IsRest input
  operatorLeaves : ∀ input value rest, operator.Succeeds input value rest → rest.IsRest input

variable {rounds finerRounds : Nat} {input rest : Stream} {found : List (ω × α)}

theorem Roomy.links_lt (roomy : Roomy region rounds term operator)
    (linked : Linked term operator input found rest) (member : region input)
    (ends : ∀ operation behind operand middle, operator.Succeeds rest operation behind →
      ¬ term.Succeeds behind operand middle) : found.length < rounds := by
  have fewer := linked.length_le roomy.termLeaves roomy.operatorLeaves ends
  have room := roomy.room input member
  omega

/-- The end of a chain is found again, after as many links. -/
theorem Roomy.stops (roomy : Roomy region rounds term operator)
    (refines : Refines region term finerTerm)
    (operatorRefines : Refines region operator finerOperator) (member : region input)
    (linked : Linked term operator input found rest)
    (failure : ∃ cause, operator.Fails rest cause) :
    Linked finerTerm finerOperator input found rest ∧ found.length < rounds ∧
      ∃ cause, finerOperator.Fails rest cause := by
  have kept := (refines_iff.mp refines).1
  have operatorKept := (refines_iff.mp operatorRefines).1
  rcases failure with ⟨cause, failure⟩
  refine ⟨linked.refined refines operatorRefines member, roomy.links_lt linked member ?_, cause, ?_⟩
  · intro operation behind operand middle operated
    exact absurd failure operated.not_fails
  · exact operatorRefines.returns (kept.linked operatorKept linked member) failure

theorem Roomy.breaks {cause : ParseError} (roomy : Roomy region rounds term operator)
    (refines : Refines region term finerTerm)
    (operatorRefines : Refines region operator finerOperator) (member : region input)
    (linked : Linked term operator input found rest) (dangling : Dangles term operator rest cause) :
    Linked finerTerm finerOperator input found rest ∧ found.length < rounds ∧
      Dangles finerTerm finerOperator rest cause := by
  have kept := (refines_iff.mp refines).1
  have operatorKept := (refines_iff.mp operatorRefines).1
  rcases dangling with ⟨operation, behind, operated, failure⟩
  refine ⟨linked.refined refines operatorRefines member, roomy.links_lt linked member ?_,
    operation, behind, ?_⟩
  · intro otherOperation otherBehind operand middle otherOperated followed
    rcases operated.unique otherOperated with ⟨_, rfl⟩
    exact followed.not_fails failure
  · have restMember := kept.linked operatorKept linked member
    have behindMember := operatorKept rest restMember operation behind operated
    exact ⟨operatorRefines.returns restMember operated, refines.returns behindMember failure⟩

theorem Refines.chainLeft (refines : Refines region term finerTerm)
    (operatorRefines : Refines region operator finerOperator)
    (roomy : Roomy region finerRounds term operator) (rounds : Nat)
    (apply : ω → α → α → Except Fault α) :
    Refines region (chainLeft rounds apply term operator)
      (chainLeft finerRounds apply finerTerm finerOperator) := by
  have kept := (refines_iff.mp refines).1
  have operatorKept := (refines_iff.mp operatorRefines).1
  refine refines_iff.mpr ⟨kept.chainLeft operatorKept rounds apply, ?_⟩
  intro input member result returned
  cases result with
  | success value rest =>
      rcases succeeds_chainLeft_iff.mp returned with
        ⟨first, middle, found, started, linked, _, failure, folded⟩
      have middleMember := kept input member first middle started
      rcases roomy.stops refines operatorRefines middleMember linked failure with
        ⟨finerLinked, fewer, finerFailure⟩
      exact succeeds_chainLeft_iff.mpr ⟨first, middle, found, refines.returns member started,
        finerLinked, fewer, finerFailure, folded⟩
  | failure error =>
      refine fails_chainLeft_iff.mpr ?_
      rcases fails_chainLeft_iff.mp returned with failed |
        ⟨first, middle, found, current, started, linked, _, dangling, folded⟩
      · exact Or.inl (refines.returns member failed)
      · have middleMember := kept input member first middle started
        rcases roomy.breaks refines operatorRefines middleMember linked dangling with
          ⟨finerLinked, fewer, finerDangling⟩
        exact Or.inr ⟨first, middle, found, current, refines.returns member started,
          finerLinked, fewer, finerDangling, folded⟩

theorem Refines.chainRight (refines : Refines region term finerTerm)
    (operatorRefines : Refines region operator finerOperator)
    (roomy : Roomy region finerRounds term operator) (rounds : Nat)
    (apply : ω → α → α → Except Fault α) :
    Refines region (chainRight rounds apply term operator)
      (chainRight finerRounds apply finerTerm finerOperator) := by
  have kept := (refines_iff.mp refines).1
  have operatorKept := (refines_iff.mp operatorRefines).1
  refine refines_iff.mpr ⟨kept.chainRight operatorKept rounds apply, ?_⟩
  intro input member result returned
  cases result with
  | success value rest =>
      rcases succeeds_chainRight_iff.mp returned with
        ⟨first, middle, found, started, linked, _, failure, folded⟩
      have middleMember := kept input member first middle started
      rcases roomy.stops refines operatorRefines middleMember linked failure with
        ⟨finerLinked, fewer, finerFailure⟩
      exact succeeds_chainRight_iff.mpr ⟨first, middle, found, refines.returns member started,
        finerLinked, fewer, finerFailure, folded⟩
  | failure error =>
      refine fails_chainRight_iff.mpr ?_
      rcases fails_chainRight_iff.mp returned with failed |
        ⟨first, middle, found, current, started, linked, _, dangling⟩
      · exact Or.inl (refines.returns member failed)
      · have middleMember := kept input member first middle started
        rcases roomy.breaks refines operatorRefines middleMember linked dangling with
          ⟨finerLinked, fewer, finerDangling⟩
        exact Or.inr ⟨first, middle, found, current, refines.returns member started,
          finerLinked, fewer, finerDangling⟩

end Parser

end OrderedChoice
