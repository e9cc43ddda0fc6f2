import OrderedChoice.Parser.Chain
import OrderedChoice.Proofs.Parser.Ending
import OrderedChoice.Proofs.Stream.Rest

/-!
# What a chain reads

Both chains read the same thing: a term, and then links of an operator and a term, until
the operator fails.  They differ only in when and how they apply the operators they have
read.  The links are described here without either loop, and each chain is compared with
them.
-/

namespace OrderedChoice

namespace Parser

variable {α ω : Type} {term : Parser α} {operator : Parser ω}
  {apply : ω → α → α → Except Fault α} {rounds : Nat} {input rest : Stream} {error : ParseError}
  {value : α} {found : List (ω × α)}

/-- Operators and terms are read alternately, each where the one before it ended. -/
inductive Linked (term : Parser α) (operator : Parser ω) :
    Stream → List (ω × α) → Stream → Prop where
  | none (input : Stream) : Linked term operator input [] input
  | link {input behind middle rest : Stream} {operation : ω} {operand : α}
      {more : List (ω × α)} (operated : operator.Succeeds input operation behind)
      (followed : term.Succeeds behind operand middle)
      (later : Linked term operator middle more rest) :
      Linked term operator input ((operation, operand) :: more) rest

/-- An operator is read that has no term behind it. -/
def Dangles (term : Parser α) (operator : Parser ω) (input : Stream) (error : ParseError) : Prop :=
  ∃ operation behind, operator.Succeeds input operation behind ∧ term.Fails behind error

/-- A link that leads back to where it started is all there is to follow. -/
theorem Linked.rest_eq_of_stuck {operation : ω} {operand : α} {behind : Stream}
    (linked : Linked term operator input found rest)
    (operated : operator.Succeeds input operation behind)
    (followed : term.Succeeds behind operand input) : rest = input := by
  induction linked with
  | none input => rfl
  | link otherOperated otherFollowed _ later =>
      rcases otherOperated.unique operated with ⟨_, rfl⟩
      rcases otherFollowed.unique followed with ⟨_, rfl⟩
      exact later operated followed

/-- Where terms and operators leave rests of their inputs, each link but one that is
repeated for ever shortens the input.  A chain that comes to an end therefore has no more
links than it takes elements. -/
theorem Linked.length_le (linked : Linked term operator input found rest)
    (termLeaves : ∀ input value rest, term.Succeeds input value rest → rest.IsRest input)
    (operatorLeaves : ∀ input value rest, operator.Succeeds input value rest → rest.IsRest input)
    (ends : ∀ operation behind operand middle, operator.Succeeds rest operation behind →
      ¬ term.Succeeds behind operand middle) :
    found.length + rest.length ≤ input.length := by
  induction linked with
  | none input => exact Nat.le_of_eq (Nat.zero_add _)
  | @link input behind middle rest operation operand more operated followed later bounded =>
      have isRest : middle.IsRest input :=
        (termLeaves _ _ _ followed).trans (operatorLeaves _ _ _ operated)
      by_cases shorter : middle.length < input.length
      · have fewer := bounded ends
        rw [List.length_cons]
        omega
      · -- The link leads back to its start, so the chain goes round for ever.
        have back : middle = input := isRest.eq_of_length_le (Nat.le_of_not_lt shorter)
        subst back
        have stuck : rest = middle := later.rest_eq_of_stuck operated followed
        subst stuck
        exact absurd followed (ends operation behind operand rest operated)

/-- Apply the operators of a chain from its first operand on. -/
def foldLinksLeft (apply : ω → α → α → Except Fault α) (first : α) (found : List (ω × α)) :
    Except Fault α :=
  found.foldlM (fun accumulated link => apply link.1 accumulated link.2) first

theorem foldLinksLeft_nil (apply : ω → α → α → Except Fault α) (first : α) :
    foldLinksLeft apply first [] = .ok first := rfl

theorem foldLinksLeft_cons (apply : ω → α → α → Except Fault α) (first : α)
    (operation : ω) (operand : α) (more : List (ω × α)) :
    foldLinksLeft apply first ((operation, operand) :: more) =
      (apply operation first operand).bind fun combined => foldLinksLeft apply combined more := rfl

/-! ## One round -/

section Round

variable {β : Type} {stop : Run (Result β)} {proceed : ω → α → Stream → Run (Result β)}

/-- A round of either loop: stop where the operator fails, and proceed with what an
operator and the term behind it yield. -/
def chainRound (term : Parser α) (operator : Parser ω) (stop : Run (Result β))
    (proceed : ω → α → Stream → Run (Result β)) (input : Stream) : Run (Result β) := do
  match ← operator input with
  | .failure _ => stop
  | .success operation behind =>
      match ← term behind with
      | .failure error => reject error
      | .success operand middle => proceed operation operand middle

theorem chainRound_returns_iff {result : Result β} :
    (chainRound term operator stop proceed input).outcome = .ok result ↔
      (∃ cause, operator.Fails input cause) ∧ stop.outcome = .ok result ∨
      (∃ cause, Dangles term operator input cause ∧ result = .failure cause) ∨
      ∃ operation operand behind middle, operator.Succeeds input operation behind ∧
        term.Succeeds behind operand middle ∧
        (proceed operation operand middle).outcome = .ok result := by
  unfold chainRound
  rw [Run.outcome_bind_eq_ok_iff]
  constructor
  · intro ended
    rcases ended with ⟨operated, started, ended⟩
    cases operated with
    | failure cause => exact Or.inl ⟨⟨cause, started⟩, ended⟩
    | success operation behind =>
        rcases Run.outcome_bind_eq_ok_iff.mp ended with ⟨followed, read, ended⟩
        cases followed with
        | failure cause =>
            simp only [outcome_reject, Except.ok.injEq] at ended
            exact Or.inr (Or.inl ⟨cause, ⟨operation, behind, started, read⟩, ended.symm⟩)
        | success operand middle =>
            exact Or.inr (Or.inr ⟨operation, operand, behind, middle, started, read, ended⟩)
  · intro ended
    rcases ended with ⟨⟨cause, failure⟩, stopped⟩ | ⟨cause, dangling, rfl⟩ |
      ⟨operation, operand, behind, middle, operated, followed, proceeded⟩
    · exact ⟨.failure cause, failure, stopped⟩
    · rcases dangling with ⟨operation, behind, operated, failure⟩
      exact ⟨.success operation behind, operated,
        Run.outcome_bind_eq_ok_iff.mpr ⟨.failure cause, failure, rfl⟩⟩
    · exact ⟨.success operation behind, operated,
        Run.outcome_bind_eq_ok_iff.mpr ⟨.success operand middle, followed, proceeded⟩⟩

end Round

/-! ## Reading the links -/

theorem links_succ (term : Parser α) (operator : Parser ω) (rounds : Nat) (input : Stream) :
    links term operator (rounds + 1) input =
      chainRound term operator (accept [] input)
        (fun operation operand => onSuccess (links term operator rounds) fun more final =>
          accept ((operation, operand) :: more) final) input := by
  unfold links chainRound onSuccess
  congr 1
  funext operated
  cases operated with
  | failure cause => rfl
  | success operation behind =>
      dsimp only
      congr 1
      funext followed
      cases followed with
      | failure cause => rfl
      | success operand middle =>
          dsimp only
          congr 1
          funext read
          cases read <;> rfl

theorem succeeds_links_iff :
    Succeeds (links term operator rounds) input found rest ↔
      Linked term operator input found rest ∧ found.length < rounds ∧
        ∃ cause, operator.Fails rest cause := by
  induction rounds generalizing input found with
  | zero =>
      simp only [Succeeds, links, Run.exhausted, reduceCtorEq, Nat.not_lt_zero, false_and,
        and_false]
  | succ rounds earlier =>
      unfold Succeeds
      rw [links_succ]
      refine chainRound_returns_iff.trans ?_
      constructor
      · intro ended
        rcases ended with ⟨failure, stopped⟩ | ⟨cause, _, impossible⟩ |
          ⟨operation, operand, behind, middle, operated, followed, proceeded⟩
        · simp only [outcome_accept, Except.ok.injEq, Result.success.injEq] at stopped
          rcases stopped with ⟨rfl, rfl⟩
          exact ⟨.none input, Nat.succ_pos rounds, failure⟩
        · cases impossible
        · rcases succeeds_onSuccess_iff.mp proceeded with ⟨more, final, read, kept⟩
          simp only [outcome_accept, Except.ok.injEq, Result.success.injEq] at kept
          rcases kept with ⟨rfl, rfl⟩
          rcases earlier.mp read with ⟨linked, short, failure⟩
          exact ⟨.link operated followed linked, Nat.succ_lt_succ short, failure⟩
      · intro ended
        rcases ended with ⟨linked, short, failure⟩
        cases linked with
        | none => exact Or.inl ⟨failure, rfl⟩
        | link operated followed later =>
            have read := earlier.mpr ⟨later, Nat.lt_of_succ_lt_succ short, failure⟩
            exact Or.inr (Or.inr ⟨_, _, _, _, operated, followed,
              succeeds_onSuccess_iff.mpr ⟨_, _, read, rfl⟩⟩)

theorem fails_links_iff :
    Fails (links term operator rounds) input error ↔
      ∃ found current, Linked term operator input found current ∧ found.length < rounds ∧
        Dangles term operator current error := by
  induction rounds generalizing input with
  | zero =>
      simp only [Fails, links, Run.exhausted, reduceCtorEq, Nat.not_lt_zero, false_and, and_false,
        exists_false]
  | succ rounds earlier =>
      unfold Fails
      rw [links_succ]
      refine chainRound_returns_iff.trans ?_
      constructor
      · intro ended
        rcases ended with ⟨_, stopped⟩ | ⟨cause, dangling, same⟩ |
          ⟨operation, operand, behind, middle, operated, followed, proceeded⟩
        · simp only [outcome_accept, Except.ok.injEq, reduceCtorEq] at stopped
        · simp only [Result.failure.injEq] at same
          exact ⟨[], input, .none input, Nat.succ_pos rounds, same ▸ dangling⟩
        · rcases fails_onSuccess_iff.mp proceeded with read | ⟨more, final, _, impossible⟩
          · rcases earlier.mp read with ⟨found, current, linked, short, dangling⟩
            exact ⟨(operation, operand) :: found, current, .link operated followed linked,
              Nat.succ_lt_succ short, dangling⟩
          · simp only [outcome_accept, Except.ok.injEq, reduceCtorEq] at impossible
      · intro ended
        rcases ended with ⟨found, current, linked, short, dangling⟩
        cases linked with
        | none => exact Or.inr (Or.inl ⟨error, dangling, rfl⟩)
        | link operated followed later =>
            have read := earlier.mpr ⟨_, current, later, Nat.lt_of_succ_lt_succ short, dangling⟩
            exact Or.inr (Or.inr ⟨_, _, _, _, operated, followed,
              fails_onSuccess_iff.mpr (Or.inl read)⟩)

/-! ## Applying the operators -/

theorem chainLeftFrom_succ (apply : ω → α → α → Except Fault α) (term : Parser α)
    (operator : Parser ω) (rounds : Nat) (first : α) (input : Stream) :
    chainLeftFrom apply term operator (rounds + 1) first input =
      chainRound term operator (accept first input)
        (fun operation operand middle => do
          let combined ← Run.ofExcept (apply operation first operand)
          chainLeftFrom apply term operator rounds combined middle) input := rfl

/-- The left chain applies an operator before it looks for the next one, so a fold that
does not get through keeps it from failing as well as from succeeding. -/
theorem succeeds_chainLeftFrom_iff {first : α} :
    Succeeds (chainLeftFrom apply term operator rounds first) input value rest ↔
      ∃ found, Linked term operator input found rest ∧ found.length < rounds ∧
        (∃ cause, operator.Fails rest cause) ∧ foldLinksLeft apply first found = .ok value := by
  induction rounds generalizing input first with
  | zero =>
      simp only [Succeeds, chainLeftFrom, Run.exhausted, reduceCtorEq, Nat.not_lt_zero, false_and,
        and_false, exists_false]
  | succ rounds earlier =>
      unfold Succeeds
      rw [chainLeftFrom_succ]
      refine chainRound_returns_iff.trans ?_
      simp only [Run.outcome_bind_eq_ok_iff, Run.outcome_ofExcept_eq_ok_iff]
      constructor
      · intro ended
        rcases ended with ⟨failure, stopped⟩ | ⟨cause, _, impossible⟩ |
          ⟨operation, operand, behind, middle, operated, followed, combined, applied, proceeded⟩
        · simp only [outcome_accept, Except.ok.injEq, Result.success.injEq] at stopped
          rcases stopped with ⟨rfl, rfl⟩
          exact ⟨[], .none input, Nat.succ_pos rounds, failure, rfl⟩
        · cases impossible
        · rcases earlier.mp proceeded with ⟨found, linked, short, failure, folded⟩
          refine ⟨(operation, operand) :: found, .link operated followed linked,
            Nat.succ_lt_succ short, failure, ?_⟩
          rw [foldLinksLeft_cons, applied]
          exact folded
      · intro ended
        rcases ended with ⟨found, linked, short, failure, folded⟩
        cases linked with
        | none =>
            simp only [foldLinksLeft_nil, Except.ok.injEq] at folded
            exact Or.inl ⟨failure, folded ▸ rfl⟩
        | @link _ behind middle _ operation operand more operated followed later =>
            rw [foldLinksLeft_cons] at folded
            cases applied : apply operation first operand with
            | error cause =>
                rw [applied] at folded
                cases folded
            | ok combined =>
                rw [applied] at folded
                exact Or.inr (Or.inr ⟨operation, operand, behind, middle, operated, followed,
                  combined, applied, earlier.mpr
                    ⟨more, later, Nat.lt_of_succ_lt_succ short, failure, folded⟩⟩)

theorem fails_chainLeftFrom_iff {first : α} :
    Fails (chainLeftFrom apply term operator rounds first) input error ↔
      ∃ found current, Linked term operator input found current ∧ found.length < rounds ∧
        Dangles term operator current error ∧
        ∃ value, foldLinksLeft apply first found = .ok value := by
  induction rounds generalizing input first with
  | zero =>
      simp only [Fails, chainLeftFrom, Run.exhausted, reduceCtorEq, Nat.not_lt_zero, false_and,
        and_false, exists_false]
  | succ rounds earlier =>
      unfold Fails
      rw [chainLeftFrom_succ]
      refine chainRound_returns_iff.trans ?_
      simp only [Run.outcome_bind_eq_ok_iff, Run.outcome_ofExcept_eq_ok_iff]
      constructor
      · intro ended
        rcases ended with ⟨_, stopped⟩ | ⟨cause, dangling, same⟩ |
          ⟨operation, operand, behind, middle, operated, followed, combined, applied, proceeded⟩
        · simp only [outcome_accept, Except.ok.injEq, reduceCtorEq] at stopped
        · simp only [Result.failure.injEq] at same
          exact ⟨[], input, .none input, Nat.succ_pos rounds, same ▸ dangling, first, rfl⟩
        · rcases earlier.mp proceeded with ⟨found, current, linked, short, dangling, value, folded⟩
          refine ⟨(operation, operand) :: found, current, .link operated followed linked,
            Nat.succ_lt_succ short, dangling, value, ?_⟩
          rw [foldLinksLeft_cons, applied]
          exact folded
      · intro ended
        rcases ended with ⟨found, current, linked, short, dangling, value, folded⟩
        cases linked with
        | none => exact Or.inr (Or.inl ⟨error, dangling, rfl⟩)
        | @link _ behind middle _ operation operand more operated followed later =>
            rw [foldLinksLeft_cons] at folded
            cases applied : apply operation first operand with
            | error cause =>
                rw [applied] at folded
                cases folded
            | ok combined =>
                rw [applied] at folded
                exact Or.inr (Or.inr ⟨operation, operand, behind, middle, operated, followed,
                  combined, applied, earlier.mpr ⟨more, current, later,
                    Nat.lt_of_succ_lt_succ short, dangling, value, folded⟩⟩)

theorem succeeds_chainLeft_iff :
    (chainLeft rounds apply term operator).Succeeds input value rest ↔
      ∃ first middle found, term.Succeeds input first middle ∧
        Linked term operator middle found rest ∧ found.length < rounds ∧
        (∃ cause, operator.Fails rest cause) ∧ foldLinksLeft apply first found = .ok value := by
  refine succeeds_onSuccess_iff.trans (exists_congr fun first => exists_congr fun middle => ?_)
  refine (and_congr Iff.rfl succeeds_chainLeftFrom_iff).trans ?_
  simp only [exists_and_left]

theorem fails_chainLeft_iff :
    (chainLeft rounds apply term operator).Fails input error ↔
      term.Fails input error ∨
        ∃ first middle found current, term.Succeeds input first middle ∧
          Linked term operator middle found current ∧ found.length < rounds ∧
          Dangles term operator current error ∧
          ∃ value, foldLinksLeft apply first found = .ok value := by
  refine fails_onSuccess_iff.trans (or_congr Iff.rfl (exists_congr fun first =>
    exists_congr fun middle => ?_))
  refine (and_congr Iff.rfl fails_chainLeftFrom_iff).trans ?_
  simp only [exists_and_left]

theorem succeeds_chainRight_iff :
    (chainRight rounds apply term operator).Succeeds input value rest ↔
      ∃ first middle found, term.Succeeds input first middle ∧
        Linked term operator middle found rest ∧ found.length < rounds ∧
        (∃ cause, operator.Fails rest cause) ∧ foldLinks apply first found = .ok value := by
  refine succeeds_onSuccess_iff.trans (exists_congr fun first => exists_congr fun middle => ?_)
  constructor
  · intro ended
    rcases ended with ⟨started, ended⟩
    rcases succeeds_onSuccess_iff.mp ended with ⟨found, final, read, ended⟩
    rcases Run.outcome_bind_eq_ok_iff.mp ended with ⟨folded, applied, kept⟩
    simp only [outcome_accept, Except.ok.injEq, Result.success.injEq] at kept
    rcases kept with ⟨rfl, rfl⟩
    rcases succeeds_links_iff.mp read with ⟨linked, short, failure⟩
    exact ⟨found, started, linked, short, failure, Run.outcome_ofExcept_eq_ok_iff.mp applied⟩
  · intro ended
    rcases ended with ⟨found, started, linked, short, failure, folded⟩
    have read := succeeds_links_iff.mpr ⟨linked, short, failure⟩
    have applied := Run.outcome_ofExcept_eq_ok_iff.mpr folded
    exact ⟨started, succeeds_onSuccess_iff.mpr ⟨found, rest, read,
      Run.outcome_bind_eq_ok_iff.mpr ⟨value, applied, rfl⟩⟩⟩

theorem fails_chainRight_iff :
    (chainRight rounds apply term operator).Fails input error ↔
      term.Fails input error ∨
        ∃ first middle found current, term.Succeeds input first middle ∧
          Linked term operator middle found current ∧ found.length < rounds ∧
          Dangles term operator current error := by
  refine fails_onSuccess_iff.trans (or_congr Iff.rfl (exists_congr fun first =>
    exists_congr fun middle => ?_))
  constructor
  · intro ended
    rcases ended with ⟨started, ended⟩
    rcases fails_onSuccess_iff.mp ended with read | ⟨found, final, _, ended⟩
    · rcases fails_links_iff.mp read with ⟨found, current, linked, short, dangling⟩
      exact ⟨found, current, started, linked, short, dangling⟩
    · rcases Run.outcome_bind_eq_ok_iff.mp ended with ⟨folded, _, impossible⟩
      simp only [outcome_accept, Except.ok.injEq, reduceCtorEq] at impossible
  · intro ended
    rcases ended with ⟨found, current, started, linked, short, dangling⟩
    have read := fails_links_iff.mpr ⟨found, current, linked, short, dangling⟩
    exact ⟨started, fails_onSuccess_iff.mpr (Or.inl read)⟩

end Parser

end OrderedChoice
