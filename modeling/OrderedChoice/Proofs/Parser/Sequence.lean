import OrderedChoice.Proofs.Parser.Ending

/-!
# Parsers in a row

Parsers that are run one after the other, each on what the one before has left.  How they
are grouped makes no difference, neither to what they return nor to what they write to the
log, so it is enough to know what a flat row does: it succeeds when all its parsers do, and
otherwise ends as the first parser that does not.
-/

namespace OrderedChoice

namespace Run

variable {α β γ : Type}

theorem bind_assoc (run : Run α) (next : α → Run β) (last : β → Run γ) :
    run >>= next >>= last = run >>= fun value => next value >>= last := by
  change andThen (andThen run next) last = andThen run fun value => andThen (next value) last
  rcases run with ⟨log, outcome⟩
  cases outcome with
  | error halt => rfl
  | ok value =>
      unfold andThen
      dsimp only
      cases (next value).outcome with
      | error halt => rfl
      | ok later => simp only [List.append_assoc]

/-- A run that goes on does not return where one of its parts does not. -/
theorem outcome_bind_eq_error_iff {run : Run α} {next : α → Run β} {halt : Halt} :
    (run >>= next).outcome = .error halt ↔
      run.outcome = .error halt ∨
        ∃ value, run.outcome = .ok value ∧ (next value).outcome = .error halt := by
  rw [outcome_bind]
  cases run.outcome with
  | error found => simp only [Except.error.injEq, reduceCtorEq, false_and, exists_false, or_false]
  | ok value => simp only [reduceCtorEq, Except.ok.injEq, false_or, exists_eq_left']

/-- What a run goes on with matters only for the value that it returns. -/
theorem bind_congr {run : Run α} {next other : α → Run β}
    (same : ∀ value, run.outcome = .ok value → next value = other value) :
    run >>= next = run >>= other := by
  change andThen run next = andThen run other
  unfold andThen
  cases returned : run.outcome with
  | error halt => rfl
  | ok value => simp only [same value returned]

end Run

namespace Parser

variable {α β γ : Type} {input rest : Stream} {error : ParseError} {values : List α}

theorem onSuccess_assoc (parser : Parser α) (next : α → Stream → Run (Result β))
    (last : β → Stream → Run (Result γ)) :
    (parser.onSuccess next).onSuccess last = parser.onSuccess fun value middle =>
      onSuccess (next value) last middle := by
  funext input
  refine (Run.bind_assoc _ _ _).trans (Run.bind_congr ?_)
  intro result _
  cases result with
  | success value rest => rfl
  | failure error => rfl

/-- What follows a success matters only for the values that the parser yields. -/
theorem onSuccess_congr {parser : Parser α} {next other : α → Stream → Run (Result β)}
    (same : ∀ value rest, parser.Succeeds input value rest → next value rest = other value rest) :
    parser.onSuccess next input = parser.onSuccess other input := by
  refine Run.bind_congr ?_
  intro result returned
  cases result with
  | success value rest => exact same value rest returned
  | failure error => rfl

theorem onSuccess_accept (parser : Parser α) : parser.onSuccess accept = parser := by
  funext input
  unfold onSuccess
  change Run.andThen (parser input) _ = parser input
  unfold Run.andThen
  rcases parser input with ⟨log, outcome⟩
  cases outcome with
  | error halt => rfl
  | ok result => cases result <;> simp only [accept, reject, Run.answer, List.append_nil]

/-- What follows a changed value follows the value. -/
theorem map_onSuccess (f : α → β) (parser : Parser α) (next : β → Stream → Run (Result γ)) :
    (parser.map f).onSuccess next = parser.onSuccess fun value => next (f value) :=
  onSuccess_assoc parser _ next

theorem onSuccess_map (parser : Parser α) (next : α → Stream → Run (Result β)) (f : β → γ) :
    (parser.onSuccess next).map f = parser.onSuccess fun value middle =>
      map f (next value) middle :=
  onSuccess_assoc parser next _

/-- A parser with something behind it does not return where one of the two does not. -/
theorem halts_onSuccess_iff {first : Parser α} {next : α → Stream → Run (Result β)}
    {halt : Halt} :
    (first.onSuccess next input).outcome = .error halt ↔
      (first input).outcome = .error halt ∨
        ∃ value middle, first.Succeeds input value middle ∧
          (next value middle).outcome = .error halt := by
  refine Run.outcome_bind_eq_error_iff.trans (or_congr Iff.rfl ?_)
  constructor
  · intro ended
    rcases ended with ⟨result, started, ended⟩
    cases result with
    | failure error => cases ended
    | success value middle => exact ⟨value, middle, started, ended⟩
  · intro ended
    rcases ended with ⟨value, middle, started, ended⟩
    exact ⟨.success value middle, started, ended⟩

theorem halts_seqRight_iff {first : Parser α} {second : Parser β} {halt : Halt} :
    (first.seqRight second input).outcome = .error halt ↔
      (first input).outcome = .error halt ∨
        ∃ value middle, first.Succeeds input value middle ∧
          (second middle).outcome = .error halt :=
  halts_onSuccess_iff

/-! ## Ways to stop -/

/-- How a parser ends that does not succeed. -/
inductive Stop where
  | failed (error : ParseError)
  | halted (halt : Halt)

/-- The outcome of a parser that does not succeed, whatever its values are. -/
def Stop.outcome : Stop → Except Halt (Result α)
  | .failed error => .ok (.failure error)
  | .halted halt => .error halt

/-- A parser with something behind it stops where it stops itself, or where what is behind
it stops. -/
theorem stops_onSuccess_iff {first : Parser α} {next : α → Stream → Run (Result β)}
    {stop : Stop} :
    (first.onSuccess next input).outcome = stop.outcome ↔
      (first input).outcome = stop.outcome ∨
        ∃ value middle, first.Succeeds input value middle ∧
          (next value middle).outcome = stop.outcome := by
  cases stop with
  | failed error => exact fails_onSuccess_iff
  | halted halt => exact halts_onSuccess_iff

/-! ## Flat rows -/

/-- Run the parsers in order, each at the rest of the one before it. -/
def inTurn : List (Parser α) → Parser (List α)
  | [] => pure []
  | first :: others => first.onSuccess fun value middle =>
      (inTurn others).onSuccess (fun values rest => accept (value :: values) rest) middle

theorem inTurn_append (parsers others : List (Parser α)) :
    inTurn (parsers ++ others) = (inTurn parsers).onSuccess fun values middle =>
      (inTurn others).onSuccess (fun more rest => accept (values ++ more) rest) middle := by
  induction parsers with
  | nil => exact (onSuccess_accept _).symm
  | cons first parsers earlier =>
      rw [List.cons_append, inTurn, earlier]
      -- Both sides read the row in front, then the row behind it, and put the values together.
      rw [inTurn, onSuccess_assoc]
      congr 1
      funext value middle
      rw [onSuccess_assoc, onSuccess_assoc]
      congr 1
      funext values later
      rw [onSuccess_assoc]
      rfl

/-- Every parser of a row succeeds, each on what the one before it has left. -/
inductive Follows : List (Parser α) → Stream → List α → Stream → Prop where
  | done (input : Stream) : Follows [] input [] input
  | next {first : Parser α} {others : List (Parser α)} {input middle rest : Stream} {value : α}
      {values : List α} (success : first.Succeeds input value middle)
      (later : Follows others middle values rest) :
      Follows (first :: others) input (value :: values) rest

theorem Follows.length_eq {parsers : List (Parser α)}
    (follows : Follows parsers input values rest) : values.length = parsers.length := by
  induction follows with
  | done input => rfl
  | next _ _ later => rw [List.length_cons, later, List.length_cons]

theorem succeeds_inTurn_iff {parsers : List (Parser α)} :
    (inTurn parsers).Succeeds input values rest ↔ Follows parsers input values rest := by
  induction parsers generalizing input values with
  | nil =>
      refine succeeds_pure_iff.trans ?_
      constructor
      · intro ended
        rcases ended with ⟨rfl, rfl⟩
        exact .done _
      · intro follows
        cases follows
        exact ⟨rfl, rfl⟩
  | cons first others later =>
      refine succeeds_onSuccess_iff.trans ?_
      constructor
      · intro ended
        rcases ended with ⟨value, middle, success, ended⟩
        rcases succeeds_onSuccess_iff.mp ended with ⟨more, final, followed, kept⟩
        cases kept
        exact .next success (later.mp followed)
      · intro follows
        cases follows with
        | next success followed =>
            exact ⟨_, _, success, succeeds_onSuccess_iff.mpr ⟨_, _, later.mpr followed, rfl⟩⟩

/-- A row stops exactly as the first of its parsers does that does not succeed.  Nothing is
asked of the parsers behind that one. -/
theorem stops_inTurn_iff {parsers : List (Parser α)} {stop : Stop} :
    (inTurn parsers input).outcome = stop.outcome ↔
      ∃ before stopping behind values current, parsers = before ++ stopping :: behind ∧
        Follows before input values current ∧ (stopping current).outcome = stop.outcome := by
  induction parsers generalizing input with
  | nil =>
      constructor
      · intro ended
        cases stop <;> cases ended
      · intro ended
        rcases ended with ⟨before, _, _, _, _, impossible, _⟩
        cases before <;> cases impossible
  | cons first others later =>
      refine stops_onSuccess_iff.trans ?_
      constructor
      · intro ended
        rcases ended with stopped | ⟨value, middle, success, ended⟩
        · exact ⟨[], first, others, [], input, rfl, .done input, stopped⟩
        · rcases stops_onSuccess_iff.mp ended with followed | ⟨_, _, _, impossible⟩
          · rcases later.mp followed with
              ⟨before, stopping, behind, values, current, rfl, follows, stopped⟩
            exact ⟨first :: before, stopping, behind, value :: values, current, rfl,
              .next success follows, stopped⟩
          · cases stop <;> cases impossible
      · intro ended
        rcases ended with ⟨before, stopping, behind, values, current, same, follows, stopped⟩
        cases follows with
        | done =>
            cases same
            exact Or.inl stopped
        | next success follows =>
            cases same
            exact Or.inr ⟨_, _, success, stops_onSuccess_iff.mpr (Or.inl
              (later.mpr ⟨_, stopping, behind, _, current, rfl, follows, stopped⟩))⟩

end Parser

end OrderedChoice
