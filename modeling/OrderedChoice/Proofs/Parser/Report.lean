import OrderedChoice.Proofs.Parser.Region

/-!
# What parsers report

A parser that fails passes on the error of one of its parts or makes an error of its own.
When all errors that the parts report on a region belong to some class, the errors of a
combinator belong to it as well, as long as those do that it makes itself.  Only a check, a
negation and a repetition make any.
-/

namespace OrderedChoice

namespace Parser

variable {α β ω : Type} {region : Stream → Prop} {reported : ParseError → Prop}

/-- Every failure on a member of the region has an error of the class. -/
def Reports (region : Stream → Prop) (reported : ParseError → Prop) (parser : Parser α) : Prop :=
  ∀ input, region input → ∀ error, parser.Fails input error → reported error

section Combinators

variable {parser : Parser α} {other : Parser β}

theorem reports_pure (value : α) : (pure value).Reports region reported := by
  intro input _ error failure
  exact absurd failure not_fails_pure

theorem reports_fault (cause : Fault) : (fault cause : Parser α).Reports region reported := by
  intro input _ error failure
  exact absurd failure not_fails_fault

theorem reports_note (verbosity : Verbosity) (label : String) :
    (note verbosity label).Reports region reported := by
  intro input _ error failure
  exact absurd failure not_fails_note

theorem Reports.map (reports : parser.Reports region reported) (f : α → β) :
    (parser.map f).Reports region reported := by
  intro input member error failure
  exact reports input member error (fails_map_iff.mp failure)

theorem Reports.mapM (reports : parser.Reports region reported) (f : α → Except Fault β) :
    (parser.mapM f).Reports region reported := by
  intro input member error failure
  exact reports input member error (fails_mapM_iff.mp failure)

theorem Reports.lookAhead (reports : parser.Reports region reported) :
    parser.lookAhead.Reports region reported := by
  intro input member error failure
  exact reports input member error (fails_lookAhead_iff.mp failure)

theorem Reports.observed {parser : Parser Value} (reports : parser.Reports region reported)
    (verbosity : Verbosity) (label subject : String) :
    (observed verbosity label subject parser).Reports region reported := by
  intro input member error failure
  exact reports input member error (fails_observed_iff.mp failure)

theorem Reports.filter {check : α → Except Fault (Option ParseError)}
    (reports : parser.Reports region reported)
    (rejects : ∀ input, region input → ∀ value rest, parser.Succeeds input value rest →
      ∀ cause, check value = .ok (some cause) → reported (cause.located input.length)) :
    (parser.filter check).Reports region reported := by
  intro input member error failure
  rcases fails_filter_iff.mp failure with failed | ⟨value, rest, cause, success, rejected, rfl⟩
  · exact reports input member error failed
  · exact rejects input member value rest success cause rejected

theorem reports_notFollowedBy (parser : Parser α) (display : α → String)
    (refuses : ∀ input, region input → ∀ value,
      reported (.message ("unexpected " ++ display value) (some input.length))) :
    (parser.notFollowedBy display).Reports region reported := by
  intro input member error failure
  rcases fails_notFollowedBy_iff.mp failure with ⟨value, _, _, rfl⟩
  exact refuses input member value

/-- Of two alternatives only the second one reports. -/
theorem Reports.orElse {other : Parser α} (reports : other.Reports region reported)
    (parser : Parser α) : (parser.orElse other).Reports region reported := by
  intro input member error failure
  exact reports input member error (fails_orElse_iff.mp failure).2

theorem Reports.bind {next : α → Parser β} (reports : parser.Reports region reported)
    (kept : parser.Keeps region) (nextReports : ∀ value, (next value).Reports region reported) :
    (parser.bind next).Reports region reported := by
  intro input member error failure
  rcases fails_bind_iff.mp failure with failed | ⟨value, middle, started, ended⟩
  · exact reports input member error failed
  · exact nextReports value middle (kept input member value middle started) error ended

theorem Reports.seqRight (reports : parser.Reports region reported) (kept : parser.Keeps region)
    (otherReports : other.Reports region reported) :
    (parser.seqRight other).Reports region reported :=
  reports.bind kept fun _ => otherReports

theorem Reports.seqLeft (reports : parser.Reports region reported) (kept : parser.Keeps region)
    (otherReports : other.Reports region reported) :
    (parser.seqLeft other).Reports region reported := by
  intro input member error failure
  rcases fails_seqLeft_iff.mp failure with failed | ⟨value, middle, started, ended⟩
  · exact reports input member error failed
  · exact otherReports middle (kept input member value middle started) error ended

theorem Reports.both (reports : parser.Reports region reported) (kept : parser.Keeps region)
    (otherReports : other.Reports region reported) :
    (parser.both other).Reports region reported := by
  intro input member error failure
  rcases fails_both_iff.mp failure with failed | ⟨value, middle, started, ended⟩
  · exact reports input member error failed
  · exact otherReports middle (kept input member value middle started) error ended

theorem Reports.exactly (reports : parser.Reports region reported) (kept : parser.Keeps region)
    (count : Nat) : (parser.exactly count).Reports region reported := by
  induction count with
  | zero => exact reports_pure []
  | succ count earlier =>
      intro input member error failure
      rcases fails_exactly_succ_iff.mp failure with failed | ⟨value, middle, started, ended⟩
      · exact reports input member error failed
      · exact earlier middle (kept input member value middle started) error ended

/-- A repetition reports what its body reports, and that it is stuck. -/
theorem Reports.repeated {combinator : String} (reports : parser.Reports region reported)
    (kept : parser.Keeps region)
    (stuck : ∀ input, region input → reported (.zeroWidth combinator (some input.length)))
    (least : Nat) : Reports region reported (repeated least combinator parser) := by
  intro input member error failure
  rcases fails_repeated_iff.mp failure with ⟨values, current, row, _, failed⟩ |
    ⟨values, current, row, _, rfl⟩
  · exact reports current (kept.advances row member) error failed
  · exact stuck current (kept.advances row member)

variable {operator : Parser ω}

theorem Reports.dangles {input : Stream} {error : ParseError}
    (reports : parser.Reports region reported) (operatorKept : operator.Keeps region)
    (dangling : Dangles parser operator input error) (member : region input) :
    reported error := by
  rcases dangling with ⟨operation, behind, operated, failed⟩
  exact reports behind (operatorKept input member operation behind operated) error failed

/-- The operator of a chain reports nothing, as the chain just ends where it fails. -/
theorem Reports.chainLeft (reports : parser.Reports region reported) (kept : parser.Keeps region)
    (operatorKept : operator.Keeps region) (rounds : Nat)
    (apply : ω → α → α → Except Fault α) :
    (chainLeft rounds apply parser operator).Reports region reported := by
  intro input member error failure
  rcases fails_chainLeft_iff.mp failure with failed |
    ⟨first, middle, found, current, started, linked, _, dangling, _⟩
  · exact reports input member error failed
  · have reached := kept.linked operatorKept linked (kept input member first middle started)
    exact reports.dangles operatorKept dangling reached

theorem Reports.chainRight (reports : parser.Reports region reported)
    (kept : parser.Keeps region) (operatorKept : operator.Keeps region) (rounds : Nat)
    (apply : ω → α → α → Except Fault α) :
    (chainRight rounds apply parser operator).Reports region reported := by
  intro input member error failure
  rcases fails_chainRight_iff.mp failure with failed |
    ⟨first, middle, found, current, started, linked, _, dangling⟩
  · exact reports input member error failed
  · have reached := kept.linked operatorKept linked (kept input member first middle started)
    exact reports.dangles operatorKept dangling reached

end Combinators

end Parser

end OrderedChoice
