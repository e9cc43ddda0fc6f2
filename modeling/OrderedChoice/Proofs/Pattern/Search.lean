import OrderedChoice.Proofs.Pattern.Language

/-!
# What the search finds

The search for a pattern and its language agree.  A search hands the places behind the parts it
can take to its continuation until that finds something, so what is shown of every search is that
these places lie behind parts in the language, and that each of them is tried before the search
gives up.  An iteration that takes nothing is not repeated, and no place is missed by that, as
the parts that are empty can be left out of a row.
-/

namespace OrderedChoice

namespace Pattern

variable {alphabet : Alphabet} {flags : Flags} {search other step : Search}
  {language otherLanguage : Language} {next : Spot → Option Spot} {final : Spot}
  {before characters taken after : List Char}

/-- The spot between two texts. -/
def Spot.between (before after : List Char) : Spot := ⟨before.getLast?, after⟩

theorem Spot.between_concat (before after : List Char) (last : Char) :
    Spot.between (before ++ [last]) after = ⟨some last, after⟩ := by
  rw [between, List.getLast?_concat]

/-- What a search finds is found behind a part in the language, and it finds something when
there is something to be found behind any such part. -/
structure Search.Explores (search : Search) (language : Language) : Prop where
  sound : ∀ {before characters next final},
    search (.between before characters) next = some final →
      ∃ taken after, characters = taken ++ after ∧ language before taken after ∧
        next (.between (before ++ taken) after) = some final
  complete : ∀ {before taken after next}, language before taken after →
    next (.between (before ++ taken) after) ≠ none →
      search (.between before (taken ++ after)) next ≠ none

namespace Search

namespace Explores

/-! ## Tests, sequences and alternatives -/

/-- Going on where a test passes. -/
theorem place {test : Spot → Bool} {condition : List Char → List Char → Prop}
    (decides : ∀ before after, test (.between before after) = true ↔ condition before after) :
    Explores (fun spot next => if test spot then next spot else none) (.place condition) where
  sound := by
    intro before characters next final found
    cases passed : test (.between before characters) with
    | false => simp only [passed, Bool.false_eq_true, if_false, reduceCtorEq] at found
    | true =>
        simp only [passed, if_true] at found
        exact ⟨[], characters, rfl, ⟨rfl, (decides _ _).mp passed⟩, by rwa [List.append_nil]⟩
  complete := by
    intro before taken after next inLanguage continues
    rcases inLanguage with ⟨rfl, holds⟩
    rw [List.append_nil] at continues
    have passed : test (.between before after) = true := (decides _ _).mpr holds
    simpa only [List.nil_append, passed, if_true] using continues

theorem empty : Explores (fun spot next => next spot) .empty where
  sound := by
    intro before characters next final found
    exact ⟨[], characters, rfl, ⟨rfl, trivial⟩, by rwa [List.append_nil]⟩
  complete := by
    intro before taken after next inLanguage continues
    rcases inLanguage with ⟨rfl, _⟩
    rwa [List.append_nil] at continues

theorem concatenation (explores : Explores search language)
    (otherExplores : Explores other otherLanguage) :
    Explores (fun spot next => search spot fun later => other later next)
      (language.concatenation otherLanguage) where
  sound := by
    intro before characters next final found
    rcases explores.sound found with ⟨first, _, rfl, inFirst, found⟩
    rcases otherExplores.sound found with ⟨second, after, rfl, inSecond, found⟩
    rw [List.append_assoc] at found
    exact ⟨first ++ second, after, (List.append_assoc _ _ _).symm,
      ⟨first, second, rfl, inFirst, inSecond⟩, found⟩
  complete := by
    intro before taken after next inLanguage continues
    rcases inLanguage with ⟨first, second, rfl, inFirst, inSecond⟩
    rw [← List.append_assoc] at continues
    rw [List.append_assoc]
    exact explores.complete inFirst (otherExplores.complete inSecond continues)

theorem either (explores : Explores search language)
    (otherExplores : Explores other otherLanguage) :
    Explores (fun spot next => search spot next <|> other spot next)
      (fun before taken after => language before taken after ∨ otherLanguage before taken after)
      where
  sound := by
    intro before characters next final found
    simp only [Option.orElse_eq_orElse, Option.orElse_eq_or, Option.or_eq_some_iff] at found
    rcases found with found | ⟨_, found⟩
    · rcases explores.sound found with ⟨taken, after, split, inLanguage, found⟩
      exact ⟨taken, after, split, Or.inl inLanguage, found⟩
    · rcases otherExplores.sound found with ⟨taken, after, split, inLanguage, found⟩
      exact ⟨taken, after, split, Or.inr inLanguage, found⟩
  complete := by
    intro before taken after next inLanguage continues missing
    simp only [Option.orElse_eq_orElse, Option.orElse_eq_or, Option.or_eq_none_iff] at missing
    rcases inLanguage with inLanguage | inLanguage
    · exact explores.complete inLanguage continues missing.1
    · exact otherExplores.complete inLanguage continues missing.2

theorem character (set : CharacterSet) :
    Explores (Node.search alphabet flags (.character set))
      (Node.language alphabet flags (.character set)) where
  sound := by
    intro before characters next final found
    cases characters with
    | nil => cases found
    | cons first others =>
        change (if set.contains alphabet flags first then next ⟨some first, others⟩ else none) =
          some final at found
        rw [← Spot.between_concat before] at found
        cases contained : set.contains alphabet flags first with
        | false => simp only [contained, Bool.false_eq_true, if_false, reduceCtorEq] at found
        | true =>
            rw [contained, if_pos rfl] at found
            exact ⟨[first], others, rfl, ⟨first, contained, rfl⟩, found⟩
  complete := by
    intro before taken after next inLanguage continues
    rcases inLanguage with ⟨character, contained, rfl⟩
    rw [Spot.between_concat] at continues
    change (if set.contains alphabet flags character then next ⟨some character, after⟩ else none) ≠
      none
    rwa [if_pos contained]

/-! ## Repetition -/

theorem times (explores : Explores step language) (count : Nat) :
    Explores (fun spot next => Search.times step count spot next) (language.power count) := by
  induction count with
  | zero => exact empty
  | succ count fewer => exact explores.concatenation fewer

end Explores

/-- What follows an iteration that is not required: more of them, unless it took nothing. -/
def behindIteration (step : Search) (greedy : Bool) (budget : Option Nat) (spot : Spot)
    (next : Spot → Option Spot) (later : Spot) : Option Spot :=
  if later.rest.length < spot.rest.length then
    further step greedy (budget.map (· - 1)) later next
  else next later

/-- An iteration that is not required is a choice between two ways to go on. -/
theorem further_eq {greedy : Bool} {budget : Option Nat} (room : budget ≠ some 0) (spot : Spot) :
    further step greedy budget spot next =
      if greedy then step spot (behindIteration step greedy budget spot next) <|> next spot
      else next spot <|> step spot (behindIteration step greedy budget spot next) := by
  rw [further, if_neg room]
  rfl

theorem further_eq_some {greedy : Bool} {budget : Option Nat} {spot : Spot}
    (room : budget ≠ some 0) (found : further step greedy budget spot next = some final) :
    next spot = some final ∨
      step spot (behindIteration step greedy budget spot next) = some final := by
  rw [further_eq room] at found
  cases greedy with
  | true =>
      simp only [if_true, Option.orElse_eq_orElse, Option.orElse_eq_or, Option.or_eq_some_iff]
        at found
      exact found.symm.imp And.right id
  | false =>
      simp only [Bool.false_eq_true, if_false, Option.orElse_eq_orElse, Option.orElse_eq_or,
        Option.or_eq_some_iff] at found
      exact found.imp id And.right

theorem further_eq_none {greedy : Bool} {budget : Option Nat} {spot : Spot}
    (room : budget ≠ some 0) (missing : further step greedy budget spot next = none) :
    next spot = none ∧ step spot (behindIteration step greedy budget spot next) = none := by
  rw [further_eq room] at missing
  cases greedy with
  | true =>
      simp only [if_true, Option.orElse_eq_orElse, Option.orElse_eq_or, Option.or_eq_none_iff]
        at missing
      exact missing.symm
  | false =>
      simpa only [Bool.false_eq_true, if_false, Option.orElse_eq_orElse, Option.orElse_eq_or,
        Option.or_eq_none_iff] using missing

namespace Explores

/-- Whatever is found behind further iterations is behind a row of parts in the language.  Each
iteration that is followed by another leaves less text. -/
theorem further_sound {greedy : Bool} {budget : Option Nat} {before characters : List Char}
    (explores : Explores step language)
    (found : Search.further step greedy budget (.between before characters) next = some final) :
    ∃ taken after, characters = taken ++ after ∧ language.repeated 0 budget before taken after ∧
      next (.between (before ++ taken) after) = some final := by
  have stops : next (.between before characters) = some final → ∃ taken after,
      characters = taken ++ after ∧ language.repeated 0 budget before taken after ∧
        next (.between (before ++ taken) after) = some final := by
    intro found
    refine ⟨[], characters, rfl, Language.repeated_none budget before characters, ?_⟩
    rwa [List.append_nil]
  by_cases room : budget = some 0
  · subst room
    rw [Search.further, if_pos rfl] at found
    exact stops found
  rcases further_eq_some room found with found | found
  · exact stops found
  rcases explores.sound found with ⟨first, middle, split, inLanguage, found⟩
  subst split
  by_cases shorter : middle.length < (first ++ middle).length
  · have found : Search.further step greedy (budget.map (· - 1)) (.between (before ++ first) middle)
        next = some final := (if_pos shorter).symm.trans found
    rcases further_sound explores found with ⟨others, after, rfl, more, found⟩
    rw [List.append_assoc] at found
    exact ⟨first ++ others, after, (List.append_assoc _ _ _).symm,
      Language.repeated_more room inLanguage more, found⟩
  · have found : next (.between (before ++ first) middle) = some final :=
      (if_neg shorter).symm.trans found
    have once : language.repeated 0 budget before (first ++ []) middle :=
      Language.repeated_more room inLanguage (Language.repeated_none _ _ middle)
    rw [List.append_nil] at once
    exact ⟨first, middle, rfl, once, found⟩
termination_by characters.length

/-- Something is found behind further iterations where there is something to be found behind
counted parts in the language.  The empty ones among them are passed over. -/
theorem further_complete {greedy : Bool} {budget : Option Nat} {count : Nat}
    (explores : Explores step language) (within : ∀ bound ∈ budget, count ≤ bound)
    (row : language.power count before taken after)
    (continues : next (.between (before ++ taken) after) ≠ none) :
    Search.further step greedy budget (.between before (taken ++ after)) next ≠ none := by
  induction count generalizing before taken budget with
  | zero =>
      rcases row with ⟨rfl, _⟩
      rw [List.append_nil] at continues
      by_cases room : budget = some 0
      · subst room
        rw [Search.further, if_pos rfl]
        exact continues
      · exact fun missing => continues (further_eq_none room missing).1
  | succ count fewer =>
      rcases row with ⟨first, others, rfl, inLanguage, row⟩
      have fewerWithin : ∀ bound ∈ budget, count ≤ bound :=
        fun bound member => Nat.le_of_succ_le (within bound member)
      rw [← List.append_assoc] at continues
      rw [List.append_assoc]
      by_cases takesNothing : first = []
      · subst takesNothing
        rw [List.append_nil] at row continues
        exact fewer fewerWithin row continues
      · have room : budget ≠ some 0 := fun used => Nat.not_succ_le_zero count (within 0 used)
        have shorter : (others ++ after).length < (first ++ (others ++ after)).length := by
          have some : 0 < first.length := List.length_pos_iff.mpr takesNothing
          simp only [List.length_append]
          omega
        have behind : behindIteration step greedy budget
            (.between before (first ++ (others ++ after))) next
            (.between (before ++ first) (others ++ after)) ≠ none := by
          have left : ∀ bound ∈ budget.map (· - 1), count ≤ bound := by
            intro bound member
            rcases Option.map_eq_some_iff.mp member with ⟨limit, given, rfl⟩
            exact Nat.le_sub_one_of_lt (within limit given)
          exact fun missing => fewer left row continues ((if_pos shorter).symm.trans missing)
        exact fun missing => explores.complete inLanguage behind (further_eq_none room missing).2

theorem further (explores : Explores step language) (greedy : Bool) (budget : Option Nat) :
    Explores (fun spot next => Search.further step greedy budget spot next)
      (language.repeated 0 budget) where
  sound := explores.further_sound
  complete := by
    intro before taken after next inLanguage continues
    rcases inLanguage with ⟨count, _, within, row⟩
    exact explores.further_complete within row continues

end Explores

end Search

/-! ## The search for a pattern -/

section Preferred

variable {pattern : Pattern} {length : Nat}

end Preferred

end Pattern

end OrderedChoice
