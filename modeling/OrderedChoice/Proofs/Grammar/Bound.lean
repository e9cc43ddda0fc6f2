import Mathlib.Data.Finset.Prod
import Mathlib.Order.Monotone.Basic
import OrderedChoice.Proofs.Grammar.Remainder
import OrderedChoice.Proofs.Parser.Refinement

/-!
# The bound of a run

A run is given a bound on the depth of rules and on the rounds of chains.  What it returns
within one bound it returns within every larger one.  Whether a rule returns at some place
of the input depends on the rules that it enters there, so the rules and places that have
returned within a depth can only grow in number for as long as every further step of the
depth adds one.  When there are finitely many rules, a bound that leaves room for each of
them at each place is as good as any other.
-/

namespace OrderedChoice

namespace Grammar

variable {ν : Type} {region : Stream → Prop} {verbosity : Verbosity} {rules : ν → Grammar ν}
  {grammar : Grammar ν} {rounds finerRounds depth deeper : Nat} {origin input : Stream}

/-- A composed grammar returns more when its rules do, whatever the rounds of its chains, as
long as these leave room for the inputs. -/
theorem refines_of_composed {rules finerRules : ν → Parser Value}
    (composed : grammar.Everywhere IsComposed) (isRegion : Stream.IsRegion region)
    (room : ∀ input, region input → input.length < finerRounds)
    (rulesKeep : ∀ inner, Stream.IsRegion inner → ∀ name, (rules name).Keeps inner)
    (rulesRefine : ∀ name, Parser.Refines region (rules name) (finerRules name)) :
    Parser.Refines region (grammar.parser verbosity rules rounds)
      (grammar.parser verbosity finerRules finerRounds) := by
  -- That parts stay in the region is not enough for a chain: a link that shortens nothing
  -- has to lead back to the very same input.
  have leaves : ∀ {part : Grammar ν}, part.Everywhere IsComposed → ∀ input value rest,
      (part.parser verbosity rules rounds).Succeeds input value rest → rest.IsRest input := by
    intro part partComposed input
    have isRegion := Stream.isRegion_rests input
    exact keeps_of_composed partComposed (rulesKeep _ isRegion) isRegion input (.refl input)
  induction grammar with
  | rule name => exact rulesRefine name
  | named name body refines => exact refines composed.2
  | map f body refines => exact (refines composed.2).mapM f
  | filter check body refines =>
      exact (refines composed.2).filter (fun _ _ => Parser.same_length) check
  | bind first next refines nextRefines =>
      exact (refines composed.2.1).bind fun value => nextRefines value (composed.2.2 value)
  | both first second refines secondRefines =>
      exact ((refines composed.2.1).both (secondRefines composed.2.2)).map _
  | seqRight first second refines secondRefines =>
      exact (refines composed.2.1).seqRight (secondRefines composed.2.2)
  | seqLeft first second refines secondRefines =>
      exact (refines composed.2.1).seqLeft (secondRefines composed.2.2)
  | orElse first second refines secondRefines =>
      exact (refines composed.2.1).orElse (secondRefines composed.2.2)
  | exactly count body refines => exact ((refines composed.2).exactly count).map _
  | repeated least combinator body refines =>
      have repeats := (refines composed.2).repeated (fun _ _ => Parser.same_length) least combinator
      exact repeats.map _
  | chainLeftBy apply term operator refines operatorRefines =>
      exact (refines composed.2.1).chainLeft (operatorRefines composed.2.2)
        ⟨room, leaves composed.2.1, leaves composed.2.2⟩ rounds apply
  | chainRightBy apply term operator refines operatorRefines =>
      exact (refines composed.2.1).chainRight (operatorRefines composed.2.2)
        ⟨room, leaves composed.2.1, leaves composed.2.2⟩ rounds apply
  | lookAhead body refines => exact (refines composed.2).lookAhead
  | notFollowedBy body refines =>
      have refuses := (refines composed.2).notFollowedBy (fun _ _ => Parser.same_length) Value.shown
      exact refuses.map _
  | observed label body refines =>
      exact (refines composed.2).observed verbosity verbosity label _ label _
  | custom => exact absurd composed id
  | pure | fail | endOfInput | token | tokens | matching | note | fault =>
      exact (keeps_of_composed composed (rulesKeep region isRegion) isRegion).refines

/-- The same on the rests of one input, for rules that are entered to some depth. -/
theorem refines_on_rests {finerRules : ν → Parser Value}
    (rulesComposed : ∀ name, (rules name).Everywhere IsComposed)
    (composed : grammar.Everywhere IsComposed) (room : origin.length < finerRounds)
    (rulesRefine : ∀ name, Parser.Refines (fun stream => stream.IsRest origin)
      (ruleParser verbosity rules rounds depth name) (finerRules name)) :
    Parser.Refines (fun stream => stream.IsRest origin)
      (grammar.parser verbosity (ruleParser verbosity rules rounds depth) rounds)
      (grammar.parser verbosity finerRules finerRounds) := by
  refine refines_of_composed composed (Stream.isRegion_rests origin) ?_ ?_ rulesRefine
  · intro input isRest
    exact Nat.lt_of_le_of_lt isRest.length_le room
  · intro inner isRegion
    exact keeps_ruleParser rulesComposed isRegion depth

/-- Deeper rules return whatever shallower ones do. -/
theorem refines_deeper (composed : ∀ name, (rules name).Everywhere IsComposed)
    (room : origin.length < finerRounds) (within : depth ≤ deeper) (name : ν) :
    Parser.Refines (fun stream => stream.IsRest origin)
      (ruleParser verbosity rules rounds depth name)
      (ruleParser verbosity rules finerRounds deeper name) := by
  induction depth generalizing deeper name with
  | zero =>
      refine Parser.refines_of_never ?_ _
      intro input result returned
      cases returned
  | succ depth shallower =>
      cases deeper with
      | zero => exact absurd within (Nat.not_succ_le_zero depth)
      | succ deeper =>
          exact refines_on_rests composed (composed name) room
            (shallower (Nat.le_of_succ_le_succ within))

/-! ## Depths that are enough -/

section Depth

variable (verbosity rules rounds origin)

open Classical in
/-- The rules and the places of an input at which they return, when rules are entered to
the given depth. -/
noncomputable def settled (names : Finset ν) (depth : Nat) : Finset (ν × Nat) :=
  (names ×ˢ Finset.range (origin.length + 1)).filter fun place =>
    ∃ result, (ruleParser verbosity rules rounds depth place.1 (origin.drop place.2)).outcome =
      .ok result

end Depth

variable {names : Finset ν}

theorem mem_settled_iff {name : ν} {count : Nat} :
    (name, count) ∈ settled verbosity rules rounds origin names depth ↔
      name ∈ names ∧ count ≤ origin.length ∧
        ∃ result, (ruleParser verbosity rules rounds depth name (origin.drop count)).outcome =
          .ok result := by
  unfold settled
  simp only [Finset.mem_filter, Finset.mem_product, Finset.mem_range, Nat.lt_succ_iff, and_assoc]

theorem settled_subset (composed : ∀ name, (rules name).Everywhere IsComposed)
    (room : origin.length < rounds) (within : depth ≤ deeper) :
    settled verbosity rules rounds origin names depth ⊆
      settled verbosity rules rounds origin names deeper := by
  intro place member
  rcases mem_settled_iff.mp member with ⟨known, inside, result, returned⟩
  have deeperReturned := (refines_deeper composed room within place.1).returns (.drop _ _) returned
  exact mem_settled_iff.mpr ⟨known, inside, result, deeperReturned⟩

/-- Where a deeper run settles no more than a shallower one, it returns no more either. -/
theorem refines_of_settled_subset (composed : ∀ name, (rules name).Everywhere IsComposed)
    (others : ∀ name, name ∉ names → ∃ cause, rules name = .fault cause)
    (room : origin.length < rounds) (within : depth ≤ deeper)
    (settles : settled verbosity rules rounds origin names deeper ⊆
      settled verbosity rules rounds origin names depth) (name : ν) :
    Parser.Refines (fun stream => stream.IsRest origin)
      (ruleParser verbosity rules rounds deeper name)
      (ruleParser verbosity rules rounds depth name) := by
  refine Parser.refines_iff.mpr
    ⟨keeps_ruleParser composed (Stream.isRegion_rests origin) deeper name, ?_⟩
  intro input isRest result returned
  by_cases known : name ∈ names
  · rcases isRest with ⟨count, inside, rfl⟩
    have member := settles (mem_settled_iff.mpr ⟨known, inside, result, returned⟩)
    rcases mem_settled_iff.mp member with ⟨_, _, other, otherReturned⟩
    have again := (refines_deeper composed room within name).returns (.drop _ _) otherReturned
    have same := again.symm.trans returned
    cases same
    exact otherReturned
  · rcases others name known with ⟨cause, faulty⟩
    cases deeper with
    | zero => cases returned
    | succ deeper =>
        rw [ruleParser, faulty] at returned
        cases returned

/-- Once a step of the depth settles nothing new, the next one does not either. -/
theorem settled_stable (composed : ∀ name, (rules name).Everywhere IsComposed)
    (others : ∀ name, name ∉ names → ∃ cause, rules name = .fault cause)
    (room : origin.length < rounds)
    (settles : settled verbosity rules rounds origin names (depth + 1) ⊆
      settled verbosity rules rounds origin names depth) :
    settled verbosity rules rounds origin names (depth + 2) ⊆
      settled verbosity rules rounds origin names (depth + 1) := by
  intro place member
  rcases mem_settled_iff.mp member with ⟨known, inside, result, returned⟩
  have refines : Parser.Refines (fun stream => stream.IsRest origin)
      (ruleParser verbosity rules rounds (depth + 2) place.1)
      (ruleParser verbosity rules rounds (depth + 1) place.1) :=
    refines_on_rests composed (composed place.1) room
      (refines_of_settled_subset composed others room (Nat.le_succ depth) settles)
  exact mem_settled_iff.mpr ⟨known, inside, result, refines.returns (.drop _ _) returned⟩

theorem card_settled_le :
    (settled verbosity rules rounds origin names depth).card ≤
      names.card * (origin.length + 1) := by
  classical
  calc
    (settled verbosity rules rounds origin names depth).card ≤
        (names ×ˢ Finset.range (origin.length + 1)).card := Finset.card_filter_le _ _
    _ = names.card * (origin.length + 1) := by rw [Finset.card_product, Finset.card_range]

/-- A depth that has room for every rule at every place settles all that any depth does. -/
theorem settled_subset_of_ample (composed : ∀ name, (rules name).Everywhere IsComposed)
    (others : ∀ name, name ∉ names → ∃ cause, rules name = .fault cause)
    (room : origin.length < rounds) (ample : names.card * (origin.length + 1) ≤ depth)
    (within : depth ≤ deeper) :
    settled verbosity rules rounds origin names deeper ⊆
      settled verbosity rules rounds origin names depth := by
  have grows : ∀ {depth deeper}, depth ≤ deeper →
      settled verbosity rules rounds origin names depth ⊆
        settled verbosity rules rounds origin names deeper := by
    intro depth deeper within
    exact settled_subset composed room within
  -- Every step of the depth adds a pair until one adds none, and then no later step does.
  have sameCard : ∀ more, names.card * (origin.length + 1) ≤ more →
      (settled verbosity rules rounds origin names more).card =
        (settled verbosity rules rounds origin names
          (names.card * (origin.length + 1))).card := by
    intro more enough
    refine Nat.stabilises_of_monotone
      (f := fun depth => (settled verbosity rules rounds origin names depth).card)
      ?_ (fun _ => card_settled_le) ?_ enough
    · intro depth deeper within
      exact Finset.card_le_card (grows within)
    · intro depth same
      have settles := Finset.eq_of_subset_of_card_le (grows (Nat.le_succ depth)) same.ge
      have stays := settled_stable composed others room settles.ge
      exact congrArg Finset.card ((grows (Nat.le_succ (depth + 1))).antisymm stays)
  have same := (sameCard deeper (ample.trans within)).trans (sameCard depth ample).symm
  exact (Finset.eq_of_subset_of_card_le (grows within) same.le).ge

/-! ## Bounds that are enough -/

/-- What is returned within one bound is returned within every larger one that exceeds the
length of the input. -/
theorem parserWithin_mono {bound larger : Nat} {result : Result Value}
    (rulesComposed : ∀ name, (rules name).Everywhere IsComposed)
    (composed : grammar.Everywhere IsComposed) (within : bound ≤ larger)
    (room : input.length < larger)
    (returned : (grammar.parserWithin bound verbosity rules input).outcome = .ok result) :
    (grammar.parserWithin larger verbosity rules input).outcome = .ok result := by
  have refines : Parser.Refines (fun stream => stream.IsRest input)
      (grammar.parserWithin bound verbosity rules)
      (grammar.parserWithin larger verbosity rules) :=
    refines_on_rests rulesComposed composed room (refines_deeper rulesComposed room within)
  exact refines.returns (.refl input) returned

/-- The result that a grammar returns on an input when its bound is large enough. -/
def Returns (verbosity : Verbosity) (rules : ν → Grammar ν) (grammar : Grammar ν)
    (input : Stream) (result : Result Value) : Prop :=
  ∃ bound, (grammar.parserWithin bound verbosity rules input).outcome = .ok result

/-- Bounds that are large enough lead to the same result. -/
theorem Returns.unique {result other : Result Value}
    (rulesComposed : ∀ name, (rules name).Everywhere IsComposed)
    (composed : grammar.Everywhere IsComposed)
    (returned : grammar.Returns verbosity rules input result)
    (otherReturned : grammar.Returns verbosity rules input other) : result = other := by
  rcases returned with ⟨bound, returned⟩
  rcases otherReturned with ⟨otherBound, otherReturned⟩
  have room : input.length < max (max bound otherBound) (input.length + 1) := by omega
  have first := parserWithin_mono rulesComposed composed (by omega) room returned
  have second := parserWithin_mono rulesComposed composed (by omega) room otherReturned
  exact Except.ok.inj (first.symm.trans second)

/-- A bound with room for every rule at every place of the input returns whatever any bound
does, provided that all other rules just fault. -/
theorem parserWithin_of_ample {bound enough : Nat} {result : Result Value}
    (rulesComposed : ∀ name, (rules name).Everywhere IsComposed)
    (composed : grammar.Everywhere IsComposed)
    (others : ∀ name, name ∉ names → ∃ cause, rules name = .fault cause)
    (ample : names.card * (input.length + 1) ≤ enough) (room : input.length < enough)
    (returned : (grammar.parserWithin bound verbosity rules input).outcome = .ok result) :
    (grammar.parserWithin enough verbosity rules input).outcome = .ok result := by
  have refines : Parser.Refines (fun stream => stream.IsRest input)
      (grammar.parserWithin bound verbosity rules)
      (grammar.parserWithin enough verbosity rules) := by
    refine refines_on_rests rulesComposed composed room ?_
    intro name
    have within : enough ≤ max bound enough := Nat.le_max_right bound enough
    refine (refines_deeper rulesComposed room (Nat.le_max_left bound enough) name).trans ?_
    refine refines_of_settled_subset rulesComposed others room within ?_ name
    exact settled_subset_of_ample rulesComposed others room ample within
  exact refines.returns (.refl input) returned

/-- With no more rules than a run has room for, the run needs no larger bound. -/
theorem parse_returns_iff {result : Result Value}
    (rulesComposed : ∀ name, (rules name).Everywhere IsComposed)
    (composed : grammar.Everywhere IsComposed)
    (others : ∀ name, name ∉ names → ∃ cause, rules name = .fault cause)
    (few : names.card ≤ 2 ^ 40) :
    (grammar.parse verbosity rules input).outcome = .ok result ↔
      grammar.Returns verbosity rules input result := by
  constructor
  · intro returned
    exact ⟨ampleBound input, returned⟩
  · intro returned
    rcases returned with ⟨bound, returned⟩
    have ample : names.card * (input.length + 1) ≤ ampleBound input :=
      Nat.mul_le_mul_right _ few
    exact parserWithin_of_ample rulesComposed composed others ample (length_lt_ampleBound input)
      returned

end Grammar

end OrderedChoice
