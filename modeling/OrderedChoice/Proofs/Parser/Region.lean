import OrderedChoice.Proofs.Chain
import OrderedChoice.Proofs.Repetition
import OrderedChoice.Proofs.Stream.Rest

/-!
# Regions that parsers keep

A region is a set of streams that contains every rest of its members: the rests of one
input, say, or all streams up to a length.  A parser keeps a region when it leaves a member
wherever it succeeds on one.  Every primitive keeps every region, as it leaves its input or
cuts off the front of it, and every combinator keeps what its parts keep.  Only a parser
that no combinator builds can leave a region.
-/

namespace OrderedChoice

namespace Stream

/-- A set of streams that cutting off the front does not lead out of. -/
def IsRegion (region : Stream → Prop) : Prop :=
  ∀ stream, region stream → ∀ count, region (stream.drop count)

theorem isRegion_rests (origin : Stream) : IsRegion fun stream => stream.IsRest origin := by
  intro stream member count
  exact (IsRest.drop count stream).trans member

end Stream

namespace Parser

open OrderedChoice.Stream (IsRegion)

variable {α β ω : Type} {region : Stream → Prop}

/-- A success on a member of the region leaves a member of the region. -/
def Keeps (region : Stream → Prop) (parser : Parser α) : Prop :=
  ∀ input, region input → ∀ value rest, parser.Succeeds input value rest → region rest

/-! ## Primitives -/

theorem keeps_pure (value : α) : (pure value).Keeps region := by
  intro input member found rest success
  exact (succeeds_pure_iff.mp success).2 ▸ member

theorem keeps_fail (content : String) : (fail content : Parser α).Keeps region := by
  intro input _ found rest success
  exact absurd success not_succeeds_fail

theorem keeps_fault (cause : Fault) : (fault cause : Parser α).Keeps region := by
  intro input _ found rest success
  exact absurd success not_succeeds_fault

theorem keeps_endOfInput : endOfInput.Keeps region := by
  intro input member found rest success
  exact (succeeds_endOfInput_iff.mp success).2 ▸ member

theorem keeps_token (isRegion : IsRegion region) (select : Value → Except Fault (Option α))
    (expected : Value) (display : Value → String) :
    (token select expected display).Keeps region := by
  intro input member found rest success
  rcases succeeds_token_iff.mp success with ⟨_, _, _, rfl⟩
  exact isRegion input member 1

theorem keeps_tokens (isRegion : IsRegion region) (literal : Stream) (expected : Value)
    (display : Value → String) : (tokens literal expected display).Keeps region := by
  intro input member found rest success
  rcases succeeds_tokens_iff.mp success with ⟨_, _, rfl⟩
  exact isRegion input member literal.length

theorem keeps_matching (isRegion : IsRegion region) (pattern : Pattern) :
    (matching pattern).Keeps region := by
  intro input member found rest success
  rcases success.split_of_matching with ⟨taken, _, rfl⟩
  exact isRegion input member taken

theorem keeps_note (verbosity : Verbosity) (label : String) :
    (note verbosity label).Keeps region := by
  intro input member found rest success
  exact succeeds_note_iff.mp success ▸ member

/-! ## Combinators -/

section Combinators

variable {parser : Parser α} {other : Parser β}

theorem Keeps.map (kept : parser.Keeps region) (f : α → β) : (parser.map f).Keeps region := by
  intro input member found rest success
  rcases succeeds_map_iff.mp success with ⟨earlier, started, _⟩
  exact kept input member earlier rest started

theorem Keeps.mapM (kept : parser.Keeps region) (f : α → Except Fault β) :
    (parser.mapM f).Keeps region := by
  intro input member found rest success
  rcases succeeds_mapM_iff.mp success with ⟨earlier, started, _⟩
  exact kept input member earlier rest started

theorem Keeps.filter (kept : parser.Keeps region)
    (check : α → Except Fault (Option ParseError)) : (parser.filter check).Keeps region := by
  intro input member found rest success
  exact kept input member found rest (succeeds_filter_iff.mp success).1

theorem Keeps.bind {next : α → Parser β} (kept : parser.Keeps region)
    (nextKept : ∀ value, (next value).Keeps region) : (parser.bind next).Keeps region := by
  intro input member found rest success
  rcases succeeds_bind_iff.mp success with ⟨earlier, middle, started, ended⟩
  exact nextKept earlier middle (kept input member earlier middle started) found rest ended

theorem Keeps.both (kept : parser.Keeps region) (otherKept : other.Keeps region) :
    (parser.both other).Keeps region := by
  intro input member found rest success
  rcases succeeds_both_iff.mp success with ⟨middle, started, ended⟩
  exact otherKept middle (kept input member found.1 middle started) found.2 rest ended

theorem Keeps.seqRight (kept : parser.Keeps region) (otherKept : other.Keeps region) :
    (parser.seqRight other).Keeps region :=
  kept.bind fun _ => otherKept

theorem Keeps.seqLeft (kept : parser.Keeps region) (otherKept : other.Keeps region) :
    (parser.seqLeft other).Keeps region := by
  intro input member found rest success
  rcases succeeds_seqLeft_iff.mp success with ⟨middle, later, started, ended⟩
  exact otherKept middle (kept input member found middle started) later rest ended

theorem Keeps.orElse {other : Parser α} (kept : parser.Keeps region)
    (otherKept : other.Keeps region) : (parser.orElse other).Keeps region := by
  intro input member found rest success
  rcases succeeds_orElse_iff.mp success with started | ⟨_, ended⟩
  · exact kept input member found rest started
  · exact otherKept input member found rest ended

theorem Keeps.lookAhead (parser : Parser α) : parser.lookAhead.Keeps region := by
  intro input member found rest success
  exact (succeeds_lookAhead_iff.mp success).1 ▸ member

theorem Keeps.notFollowedBy (parser : Parser α) (display : α → String) :
    (parser.notFollowedBy display).Keeps region := by
  intro input member found rest success
  exact (succeeds_notFollowedBy_iff.mp success).1 ▸ member

theorem Keeps.observed {parser : Parser Value} (kept : parser.Keeps region)
    (verbosity : Verbosity) (label subject : String) :
    (observed verbosity label subject parser).Keeps region := by
  intro input member found rest success
  exact kept input member found rest (succeeds_observed_iff.mp success)

theorem Keeps.exactly (kept : parser.Keeps region) (count : Nat) :
    (parser.exactly count).Keeps region := by
  induction count with
  | zero => exact keeps_pure []
  | succ count earlier =>
      intro input member found rest success
      rcases succeeds_exactly_succ_iff.mp success with ⟨value, more, middle, _, started, ended⟩
      exact earlier middle (kept input member value middle started) more rest ended

/-- A row of successes stays in the region from its first step to its last. -/
theorem Keeps.advances {input rest : Stream} {values : List α} (kept : parser.Keeps region)
    (row : parser.Advances input values rest) (member : region input) : region rest := by
  induction row with
  | stay input => exact member
  | step success _ _ later => exact later (kept _ member _ _ success)

theorem Keeps.repeated (kept : parser.Keeps region) (least : Nat) (combinator : String) :
    Keeps region (repeated least combinator parser) := by
  intro input member found rest success
  exact kept.advances (succeeds_repeated_iff.mp success).2.1 member

/-- The links of a chain stay in the region as well. -/
theorem Keeps.linked {operator : Parser ω} {input rest : Stream} {found : List (ω × α)}
    (kept : parser.Keeps region) (operatorKept : operator.Keeps region)
    (linked : Linked parser operator input found rest) (member : region input) :
    region rest := by
  induction linked with
  | none input => exact member
  | link operated followed _ later =>
      exact later (kept _ (operatorKept _ member _ _ operated) _ _ followed)

theorem Keeps.chainLeft {operator : Parser ω} (kept : parser.Keeps region)
    (operatorKept : operator.Keeps region) (rounds : Nat)
    (apply : ω → α → α → Except Fault α) :
    (chainLeft rounds apply parser operator).Keeps region := by
  intro input member value rest success
  rcases succeeds_chainLeft_iff.mp success with ⟨first, middle, found, started, linked, _⟩
  exact kept.linked operatorKept linked (kept input member first middle started)

theorem Keeps.chainRight {operator : Parser ω} (kept : parser.Keeps region)
    (operatorKept : operator.Keeps region) (rounds : Nat)
    (apply : ω → α → α → Except Fault α) :
    (chainRight rounds apply parser operator).Keeps region := by
  intro input member value rest success
  rcases succeeds_chainRight_iff.mp success with ⟨first, middle, found, started, linked, _⟩
  exact kept.linked operatorKept linked (kept input member first middle started)

end Combinators

end Parser

end OrderedChoice
