import OrderedChoice.Proofs.Grammar.Bound
import OrderedChoice.Proofs.Grammar.Ending
import OrderedChoice.Proofs.ParsingExpression.Basic
import OrderedChoice.Proofs.Repetition

/-!
# Grammars that are parsing expressions

The combinators implement parsing expression grammars: what an expression does on an input
is what the parser of its grammar does there.  One direction goes through the depth of the
rules and the structure of the expression, the other one through the derivation.
-/

namespace OrderedChoice

namespace ParsingExpression

variable {ν : Type} {verbosity : Verbosity} {rounds : Nat} {rules : ν → ParsingExpression ν}
  {expression body : ParsingExpression ν} {input rest : Stream} {outcome : Outcome}

theorem Outcome.after_zero (outcome : Outcome) : outcome.after 0 = outcome := by
  cases outcome with
  | matched length => exact congrArg matched (Nat.zero_add length)
  | failed => rfl

theorem Outcome.after_after (first second : Nat) (outcome : Outcome) :
    (outcome.after second).after first = outcome.after (first + second) := by
  cases outcome with
  | matched length => exact congrArg matched (Nat.add_assoc first second length).symm
  | failed => rfl

/-! ## What parsers do is derived -/

/-- Whatever the parser returns is an outcome of the expression. -/
structure Sound (rules : ν → ParsingExpression ν) (expression : ParsingExpression ν)
    (parser : Parser Value) : Prop where
  matched : ∀ input value rest, parser.Succeeds input value rest →
    ∃ length, rest = input.drop length ∧ Derives rules expression input (.matched length)
  failed : ∀ input error, parser.Fails input error → Derives rules expression input .failed

section Repetition

variable {parser : Parser Value} {values : List Value}

/-- A star does from the start of a row what it does from the end of it. -/
theorem Sound.star_of_advances (sound : Sound rules body parser)
    (row : parser.Advances input values rest) (derived : Derives rules (.star body) rest outcome) :
    ∃ length, rest = input.drop length ∧
      Derives rules (.star body) input (outcome.after length) := by
  induction row with
  | stay input =>
      rw [← outcome.after_zero] at derived
      exact ⟨0, (Stream.drop_zero input).symm, derived⟩
  | step success shorter row later =>
      rcases sound.matched _ _ _ success with ⟨length, rfl, started⟩
      rcases later derived with ⟨more, rfl, followed⟩
      refine ⟨length + more, Stream.drop_drop length more _, ?_⟩
      rw [← Outcome.after_after]
      exact .starNext started followed

theorem Sound.empty_of_stalls (sound : Sound rules body parser) (stalls : parser.Stalls input) :
    Derives rules body input (.matched 0) := by
  rcases stalls with ⟨value, rest, success, notShorter⟩
  rcases sound.matched input value rest success with ⟨length, rfl, derived⟩
  have inside : length ≤ input.length := derived.fits
  rw [Stream.length_drop] at notShorter
  have nothing : length = 0 := by omega
  exact nothing ▸ derived

end Repetition

section Soundness

variable {grammarRules : ν → Parser Value}

theorem Sound.star
    (sound : Sound rules body (body.toGrammar.parser verbosity grammarRules rounds)) :
    Sound rules (.star body) (body.toGrammar.many.parser verbosity grammarRules rounds) := by
  constructor
  · intro input value rest success
    rcases Grammar.succeeds_many_iff.mp success with ⟨values, _, row, error, failure⟩
    exact sound.star_of_advances row (.starStop (sound.failed rest error failure))
  · intro input error failure
    rcases Grammar.fails_many_iff.mp failure with ⟨values, current, row, stalls, _⟩
    rcases sound.star_of_advances row (.starEmpty (sound.empty_of_stalls stalls)) with
      ⟨_, _, derived⟩
    exact derived

theorem Sound.plus
    (sound : Sound rules body (body.toGrammar.parser verbosity grammarRules rounds)) :
    Sound rules (.plus body) (body.toGrammar.atLeastOnce.parser verbosity grammarRules rounds) := by
  constructor
  · intro input value rest success
    rcases Grammar.succeeds_atLeastOnce_iff.mp success with ⟨values, _, some, row, error, failure⟩
    cases row with
    | stay => exact absurd rfl some
    | step started _ row =>
        rcases sound.matched _ _ _ started with ⟨length, rfl, first⟩
        rcases sound.star_of_advances row (.starStop (sound.failed rest error failure)) with
          ⟨more, rfl, followed⟩
        exact ⟨length + more, Stream.drop_drop length more input, .plusNext first followed⟩
  · intro input error failure
    rcases Grammar.fails_atLeastOnce_iff.mp failure with failed |
      ⟨values, current, row, stalls, _⟩
    · exact .plusFailed (sound.failed input error failed)
    · have empty := sound.empty_of_stalls stalls
      cases row with
      | stay =>
          have again : Derives rules (.star body) (input.drop 0) .failed :=
            (Stream.drop_zero input).symm ▸ .starEmpty empty
          exact .plusNext empty again
      | step started _ row =>
          rcases sound.matched _ _ _ started with ⟨length, rfl, first⟩
          rcases sound.star_of_advances row (.starEmpty empty) with ⟨_, _, followed⟩
          exact .plusNext first followed

theorem sound_of_rules (rulesSound : ∀ name, Sound rules (rules name) (grammarRules name))
    (expression : ParsingExpression ν) :
    Sound rules expression (expression.toGrammar.parser verbosity grammarRules rounds) := by
  induction expression with
  | element test =>
      constructor
      · intro input value rest success
        rcases Grammar.succeeds_satisfy_iff.mp success with ⟨head, passed, left⟩
        exact ⟨1, left, .element head passed⟩
      · intro input error failure
        rcases Grammar.fails_satisfy_iff.mp failure with ⟨ended, _⟩ | ⟨value, head, refused, _⟩
        · exact .elementMissing ended
        · exact .elementRefused head refused
  | literal content =>
      constructor
      · intro input value rest success
        rcases Parser.succeeds_tokens_iff.mp success with ⟨starts, _, rfl⟩
        exact ⟨content.length, rfl, .literal ((Stream.startsWith_iff input content).mp starts)⟩
      · intro input error failure
        have differs := (Parser.fails_tokens_iff.mp failure).1
        refine .literalMissing ?_
        intro begins
        rw [(Stream.startsWith_iff input content).mpr begins] at differs
        cases differs
  | endOfInput =>
      constructor
      · intro input value rest success
        rcases Grammar.succeeds_endOfInput_iff.mp success with ⟨ended, _, rfl⟩
        exact ⟨0, (Stream.drop_zero _).symm, .endOfInput ended⟩
      · intro input error failure
        rcases Grammar.fails_endOfInput_iff.mp failure with ⟨value, head, _⟩
        exact .endOfInputMissed head
  | sequence first second sound secondSound =>
      constructor
      · intro input value rest success
        rcases Grammar.succeeds_both_iff.mp success with ⟨_, _, middle, _, started, ended⟩
        rcases sound.matched _ _ _ started with ⟨length, rfl, derived⟩
        rcases secondSound.matched _ _ _ ended with ⟨more, rfl, followed⟩
        exact ⟨length + more, Stream.drop_drop length more input, .sequence derived followed⟩
      · intro input error failure
        rcases Grammar.fails_both_iff.mp failure with failed | ⟨_, middle, started, ended⟩
        · exact .sequenceFailed (sound.failed input error failed)
        · rcases sound.matched _ _ _ started with ⟨length, rfl, derived⟩
          exact .sequence derived (secondSound.failed _ error ended)
  | choice first second sound secondSound =>
      constructor
      · intro input value rest success
        rcases Parser.succeeds_orElse_iff.mp success with started | ⟨⟨cause, failed⟩, ended⟩
        · rcases sound.matched _ _ _ started with ⟨length, left, derived⟩
          exact ⟨length, left, .choice derived⟩
        · rcases secondSound.matched _ _ _ ended with ⟨length, left, derived⟩
          exact ⟨length, left, .choiceNext (sound.failed input cause failed) derived⟩
      · intro input error failure
        rcases Parser.fails_orElse_iff.mp failure with ⟨⟨cause, failed⟩, ended⟩
        exact .choiceNext (sound.failed input cause failed) (secondSound.failed input error ended)
  | star body sound => exact sound.star
  | plus body sound => exact sound.plus
  | optional body sound =>
      constructor
      · intro input value rest success
        rcases Grammar.succeeds_optional_iff.mp success with started | ⟨⟨cause, failed⟩, _, rfl⟩
        · rcases sound.matched _ _ _ started with ⟨length, left, derived⟩
          exact ⟨length, left, .optional derived⟩
        · exact ⟨0, (Stream.drop_zero _).symm, .optionalAbsent (sound.failed _ cause failed)⟩
      · intro input error failure
        exact absurd failure Grammar.not_fails_optional
  | followedBy body sound =>
      constructor
      · intro input value rest success
        rcases Parser.succeeds_lookAhead_iff.mp success with ⟨rfl, middle, started⟩
        rcases sound.matched _ _ _ started with ⟨length, _, derived⟩
        exact ⟨0, (Stream.drop_zero _).symm, .followedBy derived⟩
      · intro input error failure
        exact .followedByFailed (sound.failed input error (Parser.fails_lookAhead_iff.mp failure))
  | notFollowedBy body sound =>
      constructor
      · intro input value rest success
        rcases Grammar.succeeds_notFollowedBy_iff.mp success with ⟨⟨cause, failed⟩, _, rfl⟩
        exact ⟨0, (Stream.drop_zero _).symm, .notFollowedBy (sound.failed _ cause failed)⟩
      · intro input error failure
        rcases Grammar.fails_notFollowedBy_iff.mp failure with ⟨value, middle, started, _⟩
        rcases sound.matched _ _ _ started with ⟨length, _, derived⟩
        exact .notFollowedByFailed derived
  | nonterminal name =>
      constructor
      · intro input value rest success
        rcases (rulesSound name).matched input value rest success with ⟨length, left, derived⟩
        exact ⟨length, left, .nonterminal derived⟩
      · intro input error failure
        exact .nonterminal ((rulesSound name).failed input error failure)

end Soundness

theorem sound_ruleParser (rules : ν → ParsingExpression ν) (depth : Nat) (name : ν) :
    Sound rules (rules name) (Grammar.ruleParser verbosity (fun name => (rules name).toGrammar)
      rounds depth name) := by
  induction depth generalizing name with
  | zero =>
      constructor
      · intro input value rest success
        cases success
      · intro input error failure
        cases failure
  | succ depth shallower => exact sound_of_rules shallower (rules name)

/-! ## What is derived parsers do -/

/-- The parser of the expression does on the input what the outcome says. -/
def Shows (verbosity : Verbosity) (grammarRules : ν → Parser Value) (rounds : Nat)
    (expression : ParsingExpression ν) (input : Stream) : Outcome → Prop
  | .matched length => ∃ value,
      (expression.toGrammar.parser verbosity grammarRules rounds).Succeeds input value
        (input.drop length)
  | .failed => ∃ error,
      (expression.toGrammar.parser verbosity grammarRules rounds).Fails input error

section Completeness

variable {grammarRules : ν → Parser Value} {first second : ParsingExpression ν} {length : Nat}

theorem Shows.sequence
    (started : first.Shows verbosity grammarRules rounds input (.matched length))
    (followed : second.Shows verbosity grammarRules rounds (input.drop length) outcome) :
    (sequence first second).Shows verbosity grammarRules rounds input (outcome.after length) := by
  rcases started with ⟨value, started⟩
  cases outcome with
  | failed =>
      rcases followed with ⟨error, ended⟩
      exact ⟨error, Grammar.fails_both_iff.mpr (Or.inr ⟨value, _, started, ended⟩)⟩
  | matched more =>
      rcases followed with ⟨later, ended⟩
      rw [Stream.drop_drop] at ended
      exact ⟨.tuple [value, later],
        Grammar.succeeds_both_iff.mpr ⟨value, later, _, rfl, started, ended⟩⟩

/-- A star goes on behind a match that takes something.  Behind one that takes nothing it
is where it was. -/
theorem Shows.starNext (inside : length ≤ input.length)
    (started : body.Shows verbosity grammarRules rounds input (.matched length))
    (followed : (star body).Shows verbosity grammarRules rounds (input.drop length) outcome) :
    (star body).Shows verbosity grammarRules rounds input (outcome.after length) := by
  by_cases nothing : length = 0
  · subst nothing
    rw [Stream.drop_zero] at followed
    rw [Outcome.after_zero]
    exact followed
  · have shorter : (input.drop length).length < input.length := by
      rw [Stream.length_drop]
      omega
    rcases started with ⟨value, started⟩
    cases outcome with
    | failed =>
        rcases followed with ⟨error, failure⟩
        rcases Grammar.fails_many_iff.mp failure with ⟨values, current, row, stalls, same⟩
        exact ⟨error, Grammar.fails_many_iff.mpr
          ⟨value :: values, current, .step started shorter row, stalls, same⟩⟩
    | matched more =>
        rcases followed with ⟨_, success⟩
        rw [Stream.drop_drop] at success
        rcases Grammar.succeeds_many_iff.mp success with ⟨values, _, row, failure⟩
        exact ⟨.list (value :: values), Grammar.succeeds_many_iff.mpr
          ⟨value :: values, rfl, .step started shorter row, failure⟩⟩

theorem Shows.starEmpty (nothing : body.Shows verbosity grammarRules rounds input (.matched 0)) :
    (star body).Shows verbosity grammarRules rounds input .failed := by
  rcases nothing with ⟨value, success⟩
  rw [Stream.drop_zero] at success
  exact ⟨_, Grammar.fails_many_iff.mpr
    ⟨[], input, .stay input, ⟨value, input, success, Nat.le_refl _⟩, rfl⟩⟩

/-- A plus that has matched once ends as the star behind that match, also when the match
takes nothing, as the star then fails. -/
theorem Shows.plusNext (inside : length ≤ input.length)
    (started : body.Shows verbosity grammarRules rounds input (.matched length))
    (followed : (star body).Shows verbosity grammarRules rounds (input.drop length) outcome) :
    (plus body).Shows verbosity grammarRules rounds input (outcome.after length) := by
  have whole := started.starNext inside followed
  rcases started with ⟨value, started⟩
  cases outcome with
  | failed =>
      rcases whole with ⟨_, failure⟩
      rcases Grammar.fails_many_iff.mp failure with ⟨values, current, row, stalls, _⟩
      exact ⟨_, Grammar.fails_atLeastOnce_iff.mpr (Or.inr ⟨values, current, row, stalls, rfl⟩)⟩
  | matched more =>
      rcases whole with ⟨_, success⟩
      rcases Grammar.succeeds_many_iff.mp success with ⟨values, same, row, failure⟩
      refine ⟨_, Grammar.succeeds_atLeastOnce_iff.mpr ⟨values, same, ?_, row, failure⟩⟩
      intro none
      subst none
      rcases failure with ⟨error, failure⟩
      rw [row.rest_eq_of_nil] at failure
      exact started.not_fails failure

end Completeness

/-- Some depth is enough, and every larger one, for the parser of the expression to do what
the outcome says. -/
def Settles (verbosity : Verbosity) (rules : ν → ParsingExpression ν)
    (expression : ParsingExpression ν) (input : Stream) (outcome : Outcome) : Prop :=
  ∃ depth, ∀ deeper, depth ≤ deeper → ∀ rounds,
    expression.Shows verbosity
      (Grammar.ruleParser verbosity (fun name => (rules name).toGrammar) rounds deeper)
      rounds input outcome

section Depth

variable {first second whole : ParsingExpression ν} {earlier later : Outcome}
  {current : Stream}

theorem Settles.lift (settles : first.Settles verbosity rules input earlier)
    (step : ∀ {grammarRules rounds}, first.Shows verbosity grammarRules rounds input earlier →
      whole.Shows verbosity grammarRules rounds input outcome) :
    whole.Settles verbosity rules input outcome := by
  rcases settles with ⟨depth, shows⟩
  refine ⟨depth, ?_⟩
  intro deeper within rounds
  exact step (shows deeper within rounds)

theorem Settles.lift₂ (settles : first.Settles verbosity rules input earlier)
    (secondSettles : second.Settles verbosity rules current later)
    (step : ∀ {grammarRules rounds}, first.Shows verbosity grammarRules rounds input earlier →
      second.Shows verbosity grammarRules rounds current later →
      whole.Shows verbosity grammarRules rounds input outcome) :
    whole.Settles verbosity rules input outcome := by
  rcases settles with ⟨depth, shows⟩
  rcases secondSettles with ⟨secondDepth, secondShows⟩
  refine ⟨max depth secondDepth, ?_⟩
  intro deeper within rounds
  exact step (shows deeper (by omega) rounds) (secondShows deeper (by omega) rounds)

theorem settles_of_shows (shows : ∀ {grammarRules rounds},
    expression.Shows verbosity grammarRules rounds input outcome) :
    expression.Settles verbosity rules input outcome :=
  ⟨0, fun _ _ _ => shows⟩

end Depth

/-- Every derivation is found at some depth. -/
theorem Derives.settles (derived : Derives rules expression input outcome)
    (verbosity : Verbosity) : expression.Settles verbosity rules input outcome := by
  induction derived with
  | element head passed =>
      refine settles_of_shows ?_
      intro grammarRules rounds
      exact ⟨_, Grammar.succeeds_satisfy_iff.mpr ⟨head, passed, rfl⟩⟩
  | elementRefused head refused =>
      refine settles_of_shows ?_
      intro grammarRules rounds
      exact ⟨_, Grammar.fails_satisfy_iff.mpr (Or.inr ⟨_, head, refused, rfl⟩)⟩
  | elementMissing ended =>
      refine settles_of_shows ?_
      intro grammarRules rounds
      exact ⟨_, Grammar.fails_satisfy_iff.mpr (Or.inl ⟨ended, rfl⟩)⟩
  | literal begins =>
      refine settles_of_shows ?_
      intro grammarRules rounds
      exact ⟨_, Parser.succeeds_tokens_iff.mpr ⟨(Stream.startsWith_iff _ _).mpr begins, rfl, rfl⟩⟩
  | literalMissing differs =>
      refine settles_of_shows ?_
      intro grammarRules rounds
      rw [← Stream.startsWith_iff, Bool.not_eq_true] at differs
      exact ⟨_, Parser.fails_tokens_iff.mpr ⟨differs, rfl⟩⟩
  | endOfInput ended =>
      refine settles_of_shows ?_
      intro grammarRules rounds
      exact ⟨_, Grammar.succeeds_endOfInput_iff.mpr ⟨ended, rfl, Stream.drop_zero _⟩⟩
  | endOfInputMissed head =>
      refine settles_of_shows ?_
      intro grammarRules rounds
      exact ⟨_, Grammar.fails_endOfInput_iff.mpr ⟨_, head, rfl⟩⟩
  | sequence _ _ settles followedSettles => exact settles.lift₂ followedSettles .sequence
  | sequenceFailed _ settles =>
      refine settles.lift ?_
      intro grammarRules rounds shows
      rcases shows with ⟨error, failure⟩
      exact ⟨error, Grammar.fails_both_iff.mpr (Or.inl failure)⟩
  | choice _ settles =>
      refine settles.lift ?_
      intro grammarRules rounds shows
      rcases shows with ⟨value, success⟩
      exact ⟨value, Parser.succeeds_orElse_iff.mpr (Or.inl success)⟩
  | @choiceNext _ _ _ outcome _ _ settles followedSettles =>
      refine settles.lift₂ followedSettles ?_
      intro grammarRules rounds shows followedShows
      cases outcome with
      | failed =>
          rcases followedShows with ⟨error, ended⟩
          exact ⟨error, Parser.fails_orElse_iff.mpr ⟨shows, ended⟩⟩
      | matched length =>
          rcases followedShows with ⟨value, ended⟩
          exact ⟨value, Parser.succeeds_orElse_iff.mpr (Or.inr ⟨shows, ended⟩)⟩
  | starStop _ settles =>
      refine settles.lift ?_
      intro grammarRules rounds shows
      rw [Shows, Stream.drop_zero]
      exact ⟨_, Grammar.succeeds_many_iff.mpr ⟨[], rfl, .stay _, shows⟩⟩
  | starNext started _ settles followedSettles =>
      exact settles.lift₂ followedSettles (Shows.starNext started.fits)
  | starEmpty _ settles => exact settles.lift Shows.starEmpty
  | plusNext started _ settles followedSettles =>
      exact settles.lift₂ followedSettles (Shows.plusNext started.fits)
  | plusFailed _ settles =>
      refine settles.lift ?_
      intro grammarRules rounds shows
      rcases shows with ⟨error, failure⟩
      exact ⟨error, Grammar.fails_atLeastOnce_iff.mpr (Or.inl failure)⟩
  | optional _ settles =>
      refine settles.lift ?_
      intro grammarRules rounds shows
      rcases shows with ⟨value, success⟩
      exact ⟨value, Grammar.succeeds_optional_iff.mpr (Or.inl success)⟩
  | optionalAbsent _ settles =>
      refine settles.lift ?_
      intro grammarRules rounds shows
      exact ⟨_, Grammar.succeeds_optional_iff.mpr (Or.inr ⟨shows, rfl, Stream.drop_zero _⟩)⟩
  | followedBy _ settles =>
      refine settles.lift ?_
      intro grammarRules rounds shows
      rcases shows with ⟨value, success⟩
      exact ⟨value, Parser.succeeds_lookAhead_iff.mpr ⟨Stream.drop_zero _, _, success⟩⟩
  | followedByFailed _ settles =>
      refine settles.lift ?_
      intro grammarRules rounds shows
      rcases shows with ⟨error, failure⟩
      exact ⟨error, Parser.fails_lookAhead_iff.mpr failure⟩
  | notFollowedBy _ settles =>
      refine settles.lift ?_
      intro grammarRules rounds shows
      exact ⟨_, Grammar.succeeds_notFollowedBy_iff.mpr ⟨shows, rfl, Stream.drop_zero _⟩⟩
  | notFollowedByFailed _ settles =>
      refine settles.lift ?_
      intro grammarRules rounds shows
      rcases shows with ⟨value, success⟩
      exact ⟨_, Grammar.fails_notFollowedBy_iff.mpr ⟨value, _, success, rfl⟩⟩
  | nonterminal _ settles =>
      rcases settles with ⟨depth, shows⟩
      refine ⟨depth + 1, ?_⟩
      intro deeper within rounds
      cases deeper with
      | zero => exact absurd within (Nat.not_succ_le_zero depth)
      | succ deeper => exact shows deeper (Nat.le_of_succ_le_succ within) rounds

/-! ## Adequacy -/

section Adequacy

variable (verbosity : Verbosity) (rules : ν → ParsingExpression ν)
  (expression : ParsingExpression ν) (input : Stream)

theorem sound_parserWithin (bound : Nat) :
    Sound rules expression (expression.toGrammar.parserWithin bound verbosity fun name =>
      (rules name).toGrammar) :=
  sound_of_rules (sound_ruleParser rules bound) expression

theorem returns_success_iff (rest : Stream) :
    (∃ value, expression.toGrammar.Returns verbosity (fun name => (rules name).toGrammar) input
        (.success value rest)) ↔
      ∃ length, length ≤ input.length ∧ rest = input.drop length ∧
        Derives rules expression input (.matched length) := by
  constructor
  · intro returned
    rcases returned with ⟨value, bound, success⟩
    have sound := sound_parserWithin verbosity rules expression bound
    rcases sound.matched input value rest success with ⟨length, left, derived⟩
    exact ⟨length, derived.fits, left, derived⟩
  · intro derivation
    rcases derivation with ⟨length, _, rfl, derived⟩
    rcases derived.settles verbosity with ⟨depth, shows⟩
    rcases shows depth (Nat.le_refl depth) depth with ⟨value, success⟩
    exact ⟨value, depth, success⟩

theorem returns_failure_iff :
    (∃ error, expression.toGrammar.Returns verbosity (fun name => (rules name).toGrammar) input
        (.failure error)) ↔
      Derives rules expression input .failed := by
  constructor
  · intro returned
    rcases returned with ⟨error, bound, failure⟩
    exact (sound_parserWithin verbosity rules expression bound).failed input error failure
  · intro derived
    rcases derived.settles verbosity with ⟨depth, shows⟩
    rcases shows depth (Nat.le_refl depth) depth with ⟨error, failure⟩
    exact ⟨error, depth, failure⟩

end Adequacy

/-- The grammar of an expression returns a success that leaves a rest exactly when the
expression is derived to match all that stands before this rest, and it returns a failure
exactly when the expression is derived to fail.  Where the nonterminals are not too many
for the bound of a run, the run itself returns all this. -/
theorem returns_iff_derives (verbosity : Verbosity) (rules : ν → ParsingExpression ν)
    (expression : ParsingExpression ν) (input : Stream) :
    let grammarRules := fun name => (rules name).toGrammar
    let returns := expression.toGrammar.Returns verbosity grammarRules input
    (∀ rest, (∃ value, returns (.success value rest)) ↔
      ∃ length, length ≤ input.length ∧ rest = input.drop length ∧
        Derives rules expression input (.matched length)) ∧
    ((∃ error, returns (.failure error)) ↔ Derives rules expression input .failed) ∧
    (∀ names : Finset ν, (∀ name, name ∈ names) → names.card ≤ 2 ^ 40 → ∀ result,
      (expression.toGrammar.parse verbosity grammarRules input).outcome = .ok result ↔
        returns result) := by
  intro grammarRules returns
  refine ⟨returns_success_iff verbosity rules expression input,
    returns_failure_iff verbosity rules expression input, ?_⟩
  intro names complete few result
  refine Grammar.parse_returns_iff ?_ expression.toGrammar_composed ?_ few
  · intro name
    exact (rules name).toGrammar_composed
  · intro name unknown
    exact absurd (complete name) unknown

end ParsingExpression

end OrderedChoice
