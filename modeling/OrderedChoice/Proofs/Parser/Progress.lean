import OrderedChoice.Proofs.Parser.Region
import OrderedChoice.Proofs.Stream.Prefix

/-!
# Progress

A parser makes progress when each of its successes leaves less than it was given.  Of parsers
in a row it is enough that one makes progress, as long as the others do not give anything
back.  A repetition that asks for a match makes progress whatever its body does, because it
refuses every match that does not.  In turn a body that makes progress never gives a
repetition anything to refuse.
-/

namespace OrderedChoice

namespace Parser

variable {α β ω : Type} {parser : Parser α} {other : Parser β} {input rest : Stream}

/-- Every success leaves less than it was given. -/
def Progresses (parser : Parser α) : Prop :=
  ∀ input value rest, parser.Succeeds input value rest → rest.length < input.length

/-- No success leaves more than it was given. -/
def NeverLengthens (parser : Parser α) : Prop :=
  ∀ limit, parser.Keeps fun stream => stream.length ≤ limit

theorem NeverLengthens.length_le {value : α} (never : parser.NeverLengthens)
    (success : parser.Succeeds input value rest) : rest.length ≤ input.length :=
  never input.length input (Nat.le_refl _) value rest success

/-! ## Primitives -/

/-- A single element is taken off the input. -/
theorem Succeeds.shorter_of_token {select : Value → Except Fault (Option α)} {expected : Value}
    {display : Value → String} {value : α}
    (success : (token select expected display).Succeeds input value rest) :
    rest.length + 1 = input.length := by
  rcases succeeds_token_iff.mp success with ⟨element, head, _, rfl⟩
  have some : input.length ≠ 0 := by
    intro none
    rw [(Stream.head?_eq_none_iff input).mpr none] at head
    cases head
  rw [Stream.length_drop]
  omega

theorem progresses_token (select : Value → Except Fault (Option α)) (expected : Value)
    (display : Value → String) : (token select expected display).Progresses := by
  intro input value rest success
  exact Nat.lt_of_succ_le (Nat.le_of_eq success.shorter_of_token)

theorem progresses_tokens {literal : Stream} (some : 0 < literal.length) (expected : Value)
    (display : Value → String) : (tokens literal expected display).Progresses := by
  intro input value rest success
  rcases succeeds_tokens_iff.mp success with ⟨starts, _, rfl⟩
  have within := ((Stream.startsWith_iff input literal).mp starts).length_le
  rw [Stream.length_drop]
  omega

/-! ## One part -/

theorem Progresses.map (progresses : parser.Progresses) (f : α → β) : (parser.map f).Progresses := by
  intro input value rest success
  rcases succeeds_map_iff.mp success with ⟨earlier, started, _⟩
  exact progresses input earlier rest started

theorem Progresses.mapM (progresses : parser.Progresses) (f : α → Except Fault β) :
    (parser.mapM f).Progresses := by
  intro input value rest success
  rcases succeeds_mapM_iff.mp success with ⟨earlier, started, _⟩
  exact progresses input earlier rest started

theorem Progresses.filter (progresses : parser.Progresses)
    (check : α → Except Fault (Option ParseError)) : (parser.filter check).Progresses := by
  intro input value rest success
  exact progresses input value rest (succeeds_filter_iff.mp success).1

theorem Progresses.observed {parser : Parser Value} (progresses : parser.Progresses)
    (verbosity : Verbosity) (label subject : String) :
    (observed verbosity label subject parser).Progresses := by
  intro input value rest success
  exact progresses input value rest (succeeds_observed_iff.mp success)

/-! ## Several parts -/

/-- Two steps make progress when neither gives anything back and one of them does. -/
theorem Progresses.bind {next : α → Parser β} (never : parser.NeverLengthens)
    (nextNever : ∀ value, (next value).NeverLengthens)
    (either : parser.Progresses ∨ ∀ value, (next value).Progresses) :
    (parser.bind next).Progresses := by
  intro input value rest success
  rcases succeeds_bind_iff.mp success with ⟨earlier, middle, started, ended⟩
  rcases either with progresses | nextProgresses
  · exact Nat.lt_of_le_of_lt ((nextNever earlier).length_le ended)
      (progresses input earlier middle started)
  · exact Nat.lt_of_lt_of_le (nextProgresses earlier middle value rest ended)
      (never.length_le started)

theorem Progresses.seqRight (never : parser.NeverLengthens) (otherNever : other.NeverLengthens)
    (either : parser.Progresses ∨ other.Progresses) : (parser.seqRight other).Progresses :=
  .bind never (fun _ => otherNever) (either.imp id fun progresses _ => progresses)

/-- Keeping the first value or both leaves what keeping the second one does. -/
theorem Succeeds.seqRight_of_seqLeft {value : α}
    (success : (parser.seqLeft other).Succeeds input value rest) :
    ∃ later, (parser.seqRight other).Succeeds input later rest := by
  rcases succeeds_seqLeft_iff.mp success with ⟨middle, later, started, ended⟩
  exact ⟨later, succeeds_seqRight_iff.mpr ⟨value, middle, started, ended⟩⟩

theorem Succeeds.seqRight_of_both {pair : α × β}
    (success : (parser.both other).Succeeds input pair rest) :
    (parser.seqRight other).Succeeds input pair.2 rest := by
  rcases succeeds_both_iff.mp success with ⟨middle, started, ended⟩
  exact succeeds_seqRight_iff.mpr ⟨pair.1, middle, started, ended⟩

theorem Progresses.seqLeft (never : parser.NeverLengthens) (otherNever : other.NeverLengthens)
    (either : parser.Progresses ∨ other.Progresses) : (parser.seqLeft other).Progresses := by
  intro input value rest success
  rcases success.seqRight_of_seqLeft with ⟨later, success⟩
  exact Progresses.seqRight never otherNever either input later rest success

theorem Progresses.both (never : parser.NeverLengthens) (otherNever : other.NeverLengthens)
    (either : parser.Progresses ∨ other.Progresses) : (parser.both other).Progresses := by
  intro input pair rest success
  exact Progresses.seqRight never otherNever either input pair.2 rest success.seqRight_of_both

theorem Progresses.orElse {other : Parser α} (progresses : parser.Progresses)
    (otherProgresses : other.Progresses) : (parser.orElse other).Progresses := by
  intro input value rest success
  rcases succeeds_orElse_iff.mp success with started | ⟨_, ended⟩
  · exact progresses input value rest started
  · exact otherProgresses input value rest ended

/-! ## Repetition -/

theorem Progresses.exactly (progresses : parser.Progresses) (never : parser.NeverLengthens)
    {count : Nat} (some : 0 < count) : (parser.exactly count).Progresses := by
  intro input values rest success
  cases count with
  | zero => exact absurd some (Nat.lt_irrefl 0)
  | succ count =>
      rcases succeeds_exactly_succ_iff.mp success with ⟨value, more, middle, _, started, ended⟩
      have later : rest.length ≤ middle.length :=
        NeverLengthens.length_le (fun limit => (never limit).exactly count) ended
      exact Nat.lt_of_le_of_lt later (progresses input value middle started)

theorem Advances.length_le {values : List α} (row : parser.Advances input values rest) :
    rest.length ≤ input.length := by
  induction row with
  | stay input => exact Nat.le_refl _
  | step _ shorter _ later => exact Nat.le_of_lt (Nat.lt_of_le_of_lt later shorter)

/-- A repetition that asks for a match makes progress for any body. -/
theorem progresses_repeated {least : Nat} (some : 0 < least) (combinator : String)
    (parser : Parser α) : Progresses (repeated least combinator parser) := by
  intro input values rest success
  rcases succeeds_repeated_iff.mp success with ⟨enough, row, _⟩
  cases row with
  | stay => exact absurd enough (Nat.not_le_of_lt some)
  | step _ shorter later => exact Nat.lt_of_le_of_lt later.length_le shorter

theorem Progresses.not_stalls (progresses : parser.Progresses) (input : Stream) :
    ¬ parser.Stalls input := by
  intro stalls
  rcases stalls with ⟨value, rest, success, notShorter⟩
  exact absurd (progresses input value rest success) (Nat.not_lt_of_le notShorter)

variable {combinator : String} {error : ParseError}

theorem Progresses.not_fails_repeated (progresses : parser.Progresses) :
    ¬ Fails (repeated 0 combinator parser) input error := by
  intro failure
  rcases fails_repeated_iff.mp failure with ⟨_, _, _, short, _⟩ | ⟨_, current, _, stalls, _⟩
  · exact absurd short (Nat.not_lt_zero _)
  · exact progresses.not_stalls current stalls

/-- All that such a repetition can report is that there was no first match. -/
theorem Progresses.fails_repeated_iff (progresses : parser.Progresses) :
    Fails (repeated 1 combinator parser) input error ↔ parser.Fails input error := by
  constructor
  · intro failure
    rcases Parser.fails_repeated_iff.mp failure with ⟨values, current, row, short, failed⟩ |
      ⟨_, current, _, stalls, _⟩
    · cases row with
      | stay => exact failed
      | step => exact absurd short (by simp only [List.length_cons, Nat.not_lt, Nat.le_add_left])
    · exact absurd stalls (progresses.not_stalls current)
  · intro failure
    exact Parser.fails_repeated_iff.mpr (Or.inl ⟨[], input, .stay input, Nat.one_pos, failure⟩)

/-! ## Chains -/

/-- What follows the first term of a chain gives nothing back. -/
theorem NeverLengthens.linked {operator : Parser ω} {found : List (ω × α)}
    (never : parser.NeverLengthens) (operatorNever : operator.NeverLengthens)
    (linked : Linked parser operator input found rest) : rest.length ≤ input.length :=
  (never input.length).linked (operatorNever input.length) linked (Nat.le_refl _)

theorem Progresses.chainLeft {operator : Parser ω} (progresses : parser.Progresses)
    (never : parser.NeverLengthens) (operatorNever : operator.NeverLengthens) (rounds : Nat)
    (apply : ω → α → α → Except Fault α) :
    (chainLeft rounds apply parser operator).Progresses := by
  intro input value rest success
  rcases succeeds_chainLeft_iff.mp success with ⟨first, middle, found, started, linked, _⟩
  exact Nat.lt_of_le_of_lt (never.linked operatorNever linked)
    (progresses input first middle started)

theorem Progresses.chainRight {operator : Parser ω} (progresses : parser.Progresses)
    (never : parser.NeverLengthens) (operatorNever : operator.NeverLengthens) (rounds : Nat)
    (apply : ω → α → α → Except Fault α) :
    (chainRight rounds apply parser operator).Progresses := by
  intro input value rest success
  rcases succeeds_chainRight_iff.mp success with ⟨first, middle, found, started, linked, _⟩
  exact Nat.lt_of_le_of_lt (never.linked operatorNever linked)
    (progresses input first middle started)

end Parser

end OrderedChoice
