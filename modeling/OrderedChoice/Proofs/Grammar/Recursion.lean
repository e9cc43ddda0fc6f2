import OrderedChoice.Proofs.Grammar.Consumption
import OrderedChoice.Proofs.Grammar.Depth
import OrderedChoice.Proofs.Grammar.Unrolling

/-!
# Repetition by recursion

A repetition can be written as a rule that refers to itself: the body and then the rule, or
nothing.  The rule is entered once for every match, one depth below the match before it, while
the loop runs all matches at the same depth.  Every match shortens the input, though, so a depth
that exceeds what the body needs by more than the length of the input is enough for both to end
alike.
-/

namespace OrderedChoice

namespace Grammar

variable {ν : Type} {verbosity : Verbosity} {body tail otherTail : Grammar ν} {input : Stream}

/-! ## One step -/

/-- Match the body and then the tail, which yields the list of all further values, or match
nothing. -/
def unrolled (body tail : Grammar ν) : Grammar ν := ((body.both tail).map prepend).option (.list [])

section Step

variable {rules deeperRules : ν → Parser Value} {rounds more : Nat}

theorem outcome_unrolled (body tail : Grammar ν) (input : Stream) :
    ((unrolled body tail).parser verbosity rules rounds input).outcome =
      match (body.parser verbosity rules rounds input).outcome with
      | .error halt => .error halt
      | .ok (.failure _) => .ok (.success (.list []) input)
      | .ok (.success value middle) =>
          match (tail.parser verbosity rules rounds middle).outcome with
          | .error halt => .error halt
          | .ok (.failure _) => .ok (.success (.list []) input)
          | .ok (.success others rest) =>
              match prepend (.tuple [value, others]) with
              | .ok joined => .ok (.success joined rest)
              | .error cause => .error (.fault cause) := by
  have paired : (body.both tail).parser verbosity rules rounds = _ :=
    Joint.parser_grammar .both body tail verbosity rules rounds
  have joined : ((body.both tail).map prepend).parser verbosity rules rounds =
      ((body.both tail).parser verbosity rules rounds).mapM prepend := rfl
  refine (Parser.outcome_orElse _ _ input).trans ?_
  rw [joined, paired, Parser.mapM, Parser.outcome_onSuccess, Parser.outcome_onSuccess]
  cases (body.parser verbosity rules rounds input).outcome with
  | error halt => rfl
  | ok result =>
      cases result with
      | failure error => rfl
      | success value middle =>
          dsimp only
          rw [Parser.outcome_onSuccess]
          cases (tail.parser verbosity rules rounds middle).outcome with
          | error halt => rfl
          | ok result =>
              cases result with
              | failure error => rfl
              | success others rest =>
                  cases called : prepend (.tuple [value, others]) with
                  | ok joined =>
                      simp only [Parser.outcome_accept, Joint.keep, called]
                      rfl
                  | error cause =>
                      simp only [Parser.outcome_accept, Joint.keep, called]
                      rfl

/-- A step lasts longer when the body does at its input and the tail does behind the body. -/
theorem outcome_unrolled_of_outlasts
    (bodyOutlasts : (body.parser verbosity deeperRules more).Outlasts
      (body.parser verbosity rules rounds))
    (tailOutlasts : ∀ value middle,
      (body.parser verbosity rules rounds).Succeeds input value middle →
      (tail.parser verbosity rules rounds middle).outcome ≠ .error .exhausted →
      (otherTail.parser verbosity deeperRules more middle).outcome =
        (tail.parser verbosity rules rounds middle).outcome)
    (bounded : ((unrolled body tail).parser verbosity rules rounds input).outcome ≠
      .error .exhausted) :
    ((unrolled body otherTail).parser verbosity deeperRules more input).outcome =
      ((unrolled body tail).parser verbosity rules rounds input).outcome := by
  have bodySame := bodyOutlasts input
  rw [outcome_unrolled] at bounded
  rw [outcome_unrolled, outcome_unrolled]
  cases ended : (body.parser verbosity rules rounds input).outcome with
  | error halt =>
      rw [ended] at bounded bodySame
      rw [bodySame bounded]
  | ok result =>
      rw [ended] at bounded bodySame
      rw [bodySame nofun]
      cases result with
      | failure error => rfl
      | success value middle =>
          have tailSame := tailOutlasts value middle ended
          dsimp only at bounded ⊢
          rw [tailSame ?_]
          intro exhausted
          rw [exhausted] at bounded
          exact bounded rfl

/-- The loop is one step with the loop itself behind it. -/
theorem outcome_many_eq_unrolled (progresses : (body.parser verbosity rules rounds).Progresses)
    (input : Stream) :
    (body.many.parser verbosity rules rounds input).outcome =
      ((unrolled body body.many).parser verbosity rules rounds input).outcome := by
  have loop : ∀ input, (body.many.parser verbosity rules rounds input).outcome = _ :=
    fun input => Parser.outcome_map Value.list
      (Parser.repeated 0 "many" (body.parser verbosity rules rounds)) input
  rw [outcome_unrolled, loop, Parser.outcome_repeated]
  cases ended : (body.parser verbosity rules rounds input).outcome with
  | error halt => rfl
  | ok result =>
      cases result with
      | failure error => rfl
      | success value middle =>
          dsimp only
          rw [if_pos (progresses input value middle ended), loop]
          cases repeated : (Parser.repeated 0 "many" (body.parser verbosity rules rounds)
              middle).outcome with
          | error halt => rfl
          | ok result =>
              cases result with
              | failure error => exact absurd repeated progresses.not_fails_repeated
              | success others rest => rfl

end Step

/-! ## All steps -/

section Rule

variable {rules : ν → Grammar ν} {again : ν} {bound depth larger : Nat}

/-- Wherever the rule ends within a depth, the loop ends alike. -/
theorem outcome_many_of_rule (recursive : rules again = unrolled body (.rule again))
    (progresses : (body.parserWithin bound verbosity rules).Progresses) (within : depth ≤ bound)
    (bounded : (ruleParser verbosity rules bound depth again input).outcome ≠ .error .exhausted) :
    (body.many.parserWithin bound verbosity rules input).outcome =
      (ruleParser verbosity rules bound depth again input).outcome := by
  induction depth generalizing input with
  | zero => exact absurd rfl bounded
  | succ depth shallower =>
      have less : depth ≤ bound := Nat.le_of_succ_le within
      rw [ruleParser, recursive] at bounded ⊢
      refine (outcome_many_eq_unrolled progresses input).trans ?_
      refine outcome_unrolled_of_outlasts ?_ ?_ bounded
      · exact outlasts_of_rules (Nat.le_refl bound) (outlasts_ruleParser (Nat.le_refl bound) less)
          body
      · intro value middle _ tailBounded
        exact shallower less tailBounded

/-- Wherever the loop ends, the rule ends alike within a depth that has room for the input. -/
theorem outcome_rule_of_many (recursive : rules again = unrolled body (.rule again))
    (progresses : (body.parserWithin bound verbosity rules).Progresses)
    (enough : bound ≤ larger) (room : bound + input.length < depth)
    (bounded : (body.many.parserWithin bound verbosity rules input).outcome ≠
      .error .exhausted) :
    (ruleParser verbosity rules larger depth again input).outcome =
      (body.many.parserWithin bound verbosity rules input).outcome := by
  induction depth generalizing input with
  | zero => exact absurd room (Nat.not_lt_zero _)
  | succ depth shallower =>
      have within : bound ≤ depth := by omega
      have step := outcome_many_eq_unrolled progresses input
      rw [parserWithin, step] at bounded
      rw [ruleParser, recursive, parserWithin, step]
      refine outcome_unrolled_of_outlasts ?_ ?_ bounded
      · exact outlasts_of_rules enough (outlasts_ruleParser enough within) body
      · intro value middle matched tailBounded
        have shorter := progresses input value middle matched
        exact shallower (by omega) tailBounded

/-- The rule and the loop end in the same ways. -/
theorem ends_rule_iff_many (recursive : rules again = unrolled body (.rule again))
    (progresses : ∀ bound, (body.parserWithin bound verbosity rules).Progresses)
    {outcome : Except Halt (Result Value)} :
    (Grammar.rule again).Ends verbosity rules input outcome ↔
      body.many.Ends verbosity rules input outcome := by
  constructor
  · intro ends
    rcases ends with ⟨bounded, bound, rfl⟩
    exact ⟨bounded, bound,
      outcome_many_of_rule recursive (progresses bound) (Nat.le_refl bound) bounded⟩
  · intro ends
    rcases ends with ⟨bounded, bound, rfl⟩
    exact ⟨bounded, bound + input.length + 1,
      outcome_rule_of_many recursive (progresses bound) (by omega) (by omega) bounded⟩

/-- The loop ends where the body does at every rest of the input. -/
theorem many_bounded (rulesComposed : ∀ name, (rules name).Everywhere IsComposed)
    (composed : body.Everywhere IsComposed)
    (bodyBounded : ∀ rest : Stream, rest.IsRest input →
      (body.parserWithin bound verbosity rules rest).outcome ≠ .error .exhausted) :
    (body.many.parserWithin bound verbosity rules input).outcome ≠ .error .exhausted := by
  intro exhausted
  rcases halts_many_iff.mp exhausted with ⟨values, current, row, halted⟩
  have keeps : (body.parserWithin bound verbosity rules).Keeps fun stream => stream.IsRest input :=
    keeps_parserWithin rulesComposed composed (Stream.isRegion_rests input) bound
  exact bodyBounded current (keeps.advances row (.refl input)) halted

end Rule

/-- The loop and its definition by recursion.  Within any bound, a grammar that is matched at
least once ends as one match and a repetition behind it: with the same list and the same rest,
with the error of the grammar where there is no first match, and otherwise with an error at the
same place that names the other combinator.  Where all successes of the grammar shorten the
input, its repetition ends in just the ways in which a rule ends that is the grammar and the same
rule behind it, or nothing.  That rule ends where the grammar does at every rest of the input,
and then it needs no greater depth than the input has room for. -/
theorem repetition_is_recursion {rules : ν → Grammar ν}
    (rulesComposed : ∀ name, (rules name).Everywhere IsComposed)
    (composed : body.Everywhere IsComposed) (verbosity : Verbosity) (input : Stream) :
    (∀ bound,
      let meaning := parserWithin bound verbosity rules
      let loop := meaning body.atLeastOnce
      let once := meaning (oneThenMany body body)
      (∀ value rest, loop.Succeeds input value rest ↔ once.Succeeds input value rest) ∧
      ((∃ error, loop.Fails input error) ↔ ∃ other, once.Fails input other) ∧
      (∀ error other, loop.Fails input error → once.Fails input other →
        (meaning body).Fails input error ∧ other = error ∨
          ∃ left, error = .zeroWidth "at_least_once" left ∧ other = .zeroWidth "many" left) ∧
      ∀ halt, (loop input).outcome = .error halt ↔ (once input).outcome = .error halt) ∧
    ∀ again, rules again = unrolled body (.rule again) →
      (∀ bound, (body.parserWithin bound verbosity rules).Progresses) →
        (∀ outcome, (Grammar.rule again).Ends verbosity rules input outcome ↔
          body.many.Ends verbosity rules input outcome) ∧
        ∀ bound, (∀ rest : Stream, rest.IsRest input →
            (body.parserWithin bound verbosity rules rest).outcome ≠ .error .exhausted) →
          ∀ larger, bound + input.length < larger →
            ((Grammar.rule again).parserWithin larger verbosity rules input).outcome ≠
                .error .exhausted ∧
              ((Grammar.rule again).parserWithin larger verbosity rules input).outcome =
                (body.many.parserWithin larger verbosity rules input).outcome := by
  refine ⟨?_, ?_⟩
  · intro bound meaning loop once
    have stays : (meaning body).StaysPut input := by
      intro value rest success notShorter
      have isRest := keeps_parserWithin rulesComposed composed (Stream.isRegion_rests input) bound
        input (.refl input) value rest success
      exact isRest.eq_of_length_le notShorter
    exact ⟨fun _ _ => succeeds_atLeastOnce_iff_oneThenMany stays,
      exists_fails_atLeastOnce_iff_oneThenMany stays,
      fun _ _ => errors_of_atLeastOnce_and_oneThenMany stays,
      fun _ => halts_atLeastOnce_iff_oneThenMany stays⟩
  · intro again recursive progresses
    refine ⟨fun _ => ends_rule_iff_many recursive progresses, ?_⟩
    intro bound bodyBounded larger room
    have within : bound ≤ larger := by omega
    have bounded := many_bounded rulesComposed composed bodyBounded
    have ruleSame := outcome_rule_of_many recursive (progresses bound) within room bounded
    have loopSame := outlasts_parserWithin within verbosity rules body.many input bounded
    exact ⟨fun exhausted => bounded (ruleSame.symm.trans exhausted), ruleSame.trans loopSame.symm⟩

/-- A digit, or a list of items in parentheses. -/
def nestedItem : Grammar Unit :=
  Scanner.digit.orElse
    ((Scanner.exactCharacter '(').between (Scanner.exactCharacter ')') (.rule ()))

/-- Items in a row, by recursion. -/
def nestedItems : Unit → Grammar Unit := fun _ => unrolled nestedItem (.rule ())

theorem repetition_of_nested_items_is_recursion :
    let input := Stream.text ['(', '1', ')', '2', ')']
    let outcome := Except.ok (Result.success (.list [.list [.int 1], .int 2]) (.text [')']))
    (∀ name, (nestedItems name).Everywhere IsComposed) ∧ nestedItem.Everywhere IsComposed ∧
      (∀ bound, (nestedItem.parserWithin bound .warning nestedItems).Progresses) ∧
      (∀ rest : Stream, rest.IsRest input →
        (nestedItem.parserWithin 4 .warning nestedItems rest).outcome ≠ .error .exhausted) ∧
      (Grammar.rule ()).Ends .warning nestedItems input outcome ∧
      nestedItem.many.Ends .warning nestedItems input outcome ∧
      ((Grammar.rule ()).parserWithin 10 .warning nestedItems input).outcome =
        (nestedItem.many.parserWithin 10 .warning nestedItems input).outcome := by
  intro input outcome
  have consuming : IsConsuming nestedItem := by
    refine .orElse (.token _ _ _) (.between ?_ ⟨_, List.mem_cons_self, .token _ _ _⟩)
    simp only [List.forall_mem_cons]
    exact ⟨trivial, trivial, trivial, nofun⟩
  have composed : ∀ name, (nestedItems name).Everywhere IsComposed :=
    fun _ => ⟨trivial, ⟨trivial, trivial, consuming.composed, trivial⟩, trivial⟩
  have progresses : ∀ bound, (nestedItem.parserWithin bound .warning nestedItems).Progresses :=
    fun bound => consuming.progresses fun name limit =>
      keeps_ruleParser composed (isRegion_short limit) bound name
  have bounded : ∀ rest : Stream, rest.IsRest input →
      (nestedItem.parserWithin 4 .warning nestedItems rest).outcome ≠ .error .exhausted := by
    intro rest isRest
    rcases isRest with ⟨count, within, rfl⟩
    match count, within with
    | 0, _ | 1, _ | 2, _ | 3, _ | 4, _ | 5, _ => nofun
  have law := repetition_is_recursion composed consuming.composed .warning input
  have ends : (Grammar.rule ()).Ends .warning nestedItems input outcome := ⟨nofun, 6, rfl⟩
  have recursion := law.2 () rfl progresses
  exact ⟨composed, consuming.composed, progresses, bounded, ends, (recursion.1 outcome).mp ends,
    (recursion.2 4 bounded 10 (by decide)).2⟩

end Grammar

end OrderedChoice
