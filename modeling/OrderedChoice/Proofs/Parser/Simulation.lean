import OrderedChoice.Proofs.Parser.Region

/-!
# Simulation between parsers

Two parsers are compared on inputs that correspond to each other.  One simulates the other
when it ends in the same way: with the same value and a corresponding rest, or with the same
error.  Of the runs that do not return, only those have to be repeated that are tracked.
Every combinator carries a simulation of its parts over to the whole.
-/

namespace OrderedChoice

namespace Parser

variable {α β ω : Type} {related : Stream → Stream → Prop} {tracked : Halt → Prop}

/-- The second outcome is what the first one corresponds to. -/
def Carries (related : Stream → Stream → Prop) (tracked : Halt → Prop)
    (outcome image : Except Halt (Result α)) : Prop :=
  match outcome with
  | .ok (.success value rest) => ∃ final, image = .ok (.success value final) ∧ related rest final
  | .ok (.failure error) => image = .ok (.failure error)
  | .error halt => tracked halt → image = .error halt

/-- On corresponding inputs the second parser ends as the first one does. -/
def Simulation (related : Stream → Stream → Prop) (tracked : Halt → Prop)
    (parser other : Parser α) : Prop :=
  ∀ input image, related input image →
    Carries related tracked (parser input).outcome (other image).outcome

theorem carries_accept (value : α) {rest final : Stream} (alike : related rest final) :
    Carries related tracked (accept value rest).outcome (accept value final).outcome :=
  ⟨final, rfl, alike⟩

theorem carries_reject (error : ParseError) :
    Carries related tracked (reject error : Run (Result α)).outcome
      (reject error : Run (Result α)).outcome := rfl

/-- A callback that is given the same value on both sides does the same on both sides. -/
theorem carries_ofExcept {callback : Except Fault β} {next imageNext : β → Run (Result α)}
    (later : ∀ value, Carries related tracked (next value).outcome (imageNext value).outcome) :
    Carries related tracked (Run.ofExcept callback >>= next).outcome
      (Run.ofExcept callback >>= imageNext).outcome := by
  rw [Run.outcome_bind, Run.outcome_bind]
  cases callback with
  | ok value => exact later value
  | error cause => exact fun _ => rfl

theorem Carries.mono {weaker : Stream → Stream → Prop} {outcome image : Except Halt (Result α)}
    (carries : Carries related tracked outcome image)
    (weaken : ∀ rest final, related rest final → weaker rest final) :
    Carries weaker tracked outcome image := by
  cases outcome with
  | error halt => exact carries
  | ok result =>
      cases result with
      | failure error => exact carries
      | success value rest =>
          rcases carries with ⟨final, ended, alike⟩
          exact ⟨final, ended, weaken rest final alike⟩

/-- When every run without an answer is tracked and only equal rests are related, nothing is left
to tell the outcomes apart. -/
theorem Carries.outcome_eq {outcome image : Except Halt (Result α)}
    (carries : Carries related (fun _ => True) outcome image)
    (same : ∀ rest final, related rest final → rest = final) : image = outcome := by
  cases outcome with
  | error halt => exact carries trivial
  | ok result =>
      cases result with
      | failure error => exact carries
      | success value rest =>
          rcases carries with ⟨final, ended, alike⟩
          rw [ended, same rest final alike]

/-- A parser carries over to itself, and what its successes leave is of a region when it leaves
nothing else. -/
theorem carries_self {region : Stream → Prop} {parser : Parser α} {input : Stream}
    (leaves : ∀ value rest, parser.Succeeds input value rest → region rest) :
    Carries (fun rest final => rest = final ∧ region rest) tracked (parser input).outcome
      (parser input).outcome := by
  cases ended : (parser input).outcome with
  | error halt => exact fun _ => rfl
  | ok result =>
      cases result with
      | failure error => exact carries_reject error
      | success value rest => exact carries_accept value ⟨rfl, leaves value rest ended⟩

section Combinators

variable {parser other : Parser α} {second otherSecond : Parser β} {input image : Stream}

/-- After a parser that carries over, it is enough to compare what follows. -/
theorem Carries.andThen {next otherNext : Result α → Run (Result β)}
    (carries : Carries related tracked (parser input).outcome (other image).outcome)
    (succeeded : ∀ value rest final, related rest final →
      Carries related tracked (next (.success value rest)).outcome
        (otherNext (.success value final)).outcome)
    (failed : ∀ error, Carries related tracked (next (.failure error)).outcome
      (otherNext (.failure error)).outcome) :
    Carries related tracked (parser input >>= next).outcome
      (other image >>= otherNext).outcome := by
  rw [Run.outcome_bind, Run.outcome_bind]
  cases ended : (parser input).outcome with
  | error halt =>
      rw [ended] at carries
      intro isTracked
      rw [carries isTracked]
  | ok result =>
      rw [ended] at carries
      cases result with
      | failure error =>
          rw [show (other image).outcome = _ from carries]
          exact failed error
      | success value rest =>
          rcases carries with ⟨final, imageEnded, alike⟩
          rw [imageEnded]
          exact succeeded value rest final alike

theorem Carries.onSuccess {next otherNext : α → Stream → Run (Result β)}
    (carries : Carries related tracked (parser input).outcome (other image).outcome)
    (later : ∀ value rest final, related rest final →
      Carries related tracked (next value rest).outcome (otherNext value final).outcome) :
    Carries related tracked (parser.onSuccess next input).outcome
      (other.onSuccess otherNext image).outcome :=
  carries.andThen later carries_reject

theorem Simulation.map (simulation : Simulation related tracked parser other) (f : α → β) :
    Simulation related tracked (parser.map f) (other.map f) := by
  intro input image alike
  exact (simulation input image alike).onSuccess fun _ _ _ => carries_accept _

theorem Simulation.mapM (simulation : Simulation related tracked parser other)
    (f : α → Except Fault β) : Simulation related tracked (parser.mapM f) (other.mapM f) := by
  intro input image alike
  refine (simulation input image alike).onSuccess ?_
  intro value rest final restsAlike
  exact carries_ofExcept fun changed => carries_accept changed restsAlike

/-- A check locates its error by the length of its input. -/
theorem Simulation.filter (simulation : Simulation related tracked parser other)
    (sameLength : ∀ input image, related input image → input.length = image.length)
    (check : α → Except Fault (Option ParseError)) :
    Simulation related tracked (parser.filter check) (other.filter check) := by
  intro input image alike
  refine (simulation input image alike).onSuccess ?_
  intro value rest final restsAlike
  refine carries_ofExcept ?_
  intro verdict
  cases verdict with
  | none => exact carries_accept value restsAlike
  | some error =>
      rw [sameLength input image alike]
      exact carries_reject _

theorem Simulation.bind {next otherNext : α → Parser β}
    (simulation : Simulation related tracked parser other)
    (later : ∀ value, Simulation related tracked (next value) (otherNext value)) :
    Simulation related tracked (parser.bind next) (other.bind otherNext) := by
  intro input image alike
  exact (simulation input image alike).onSuccess later

theorem Simulation.seqRight (simulation : Simulation related tracked parser other)
    (secondSimulation : Simulation related tracked second otherSecond) :
    Simulation related tracked (parser.seqRight second) (other.seqRight otherSecond) :=
  simulation.bind fun _ => secondSimulation

theorem Simulation.seqLeft (simulation : Simulation related tracked parser other)
    (secondSimulation : Simulation related tracked second otherSecond) :
    Simulation related tracked (parser.seqLeft second) (other.seqLeft otherSecond) := by
  refine simulation.bind fun value => ?_
  intro input image alike
  exact (secondSimulation input image alike).onSuccess fun _ _ _ => carries_accept value

theorem Simulation.both (simulation : Simulation related tracked parser other)
    (secondSimulation : Simulation related tracked second otherSecond) :
    Simulation related tracked (parser.both second) (other.both otherSecond) := by
  refine simulation.bind fun value => ?_
  intro input image alike
  exact (secondSimulation input image alike).onSuccess fun _ _ _ => carries_accept _

theorem Simulation.lookAhead (simulation : Simulation related tracked parser other) :
    Simulation related tracked parser.lookAhead other.lookAhead := by
  intro input image alike
  exact (simulation input image alike).onSuccess fun value _ _ _ => carries_accept value alike

theorem Simulation.exactly (simulation : Simulation related tracked parser other) (count : Nat) :
    Simulation related tracked (parser.exactly count) (other.exactly count) := by
  induction count with
  | zero => exact fun _ _ alike => carries_accept [] alike
  | succ count earlier =>
      refine simulation.bind fun value => ?_
      intro input image alike
      exact (earlier input image alike).onSuccess fun _ _ _ => carries_accept _

theorem Carries.orElse {second otherSecond : Parser α}
    (carries : Carries related tracked (parser input).outcome (other image).outcome)
    (secondCarries : Carries related tracked (second input).outcome (otherSecond image).outcome) :
    Carries related tracked (parser.orElse second input).outcome
      (other.orElse otherSecond image).outcome := by
  refine carries.andThen ?_ fun _ => secondCarries
  intro value rest final restsAlike
  exact carries_accept value restsAlike

theorem Simulation.orElse {second otherSecond : Parser α}
    (simulation : Simulation related tracked parser other)
    (secondSimulation : Simulation related tracked second otherSecond) :
    Simulation related tracked (parser.orElse second) (other.orElse otherSecond) := by
  intro input image alike
  exact (simulation input image alike).orElse (secondSimulation input image alike)

theorem Simulation.notFollowedBy (simulation : Simulation related tracked parser other)
    (sameLength : ∀ input image, related input image → input.length = image.length)
    (display : α → String) :
    Simulation related tracked (parser.notFollowedBy display) (other.notFollowedBy display) := by
  intro input image alike
  refine (simulation input image alike).andThen ?_ ?_
  · intro value rest final restsAlike
    dsimp only
    rw [sameLength input image alike]
    exact carries_reject _
  · intro error
    exact carries_accept () alike

theorem Simulation.observed {parser other : Parser Value}
    (simulation : Simulation related tracked parser other) (verbosity otherVerbosity : Verbosity)
    (label subject otherLabel otherSubject : String) :
    Simulation related tracked (observed verbosity label subject parser)
      (observed otherVerbosity otherLabel otherSubject other) := by
  intro input image alike
  rw [outcome_observed, outcome_observed]
  exact simulation input image alike

theorem Carries.behind {outcome image : Except Halt (Result (List α))}
    (carries : Carries related tracked outcome image) (values : List α) :
    Carries related tracked (outcome.map (behind values)) (image.map (Parser.behind values)) := by
  cases outcome with
  | error halt =>
      intro isTracked
      rw [carries isTracked]
      rfl
  | ok result =>
      cases result with
      | failure error =>
          rw [show image = _ from carries]
          rfl
      | success more rest =>
          rcases carries with ⟨final, rfl, alike⟩
          exact ⟨final, rfl, alike⟩

/-- A repetition compares the lengths of inputs only, and these have to agree. -/
theorem Simulation.repeated (simulation : Simulation related tracked parser other)
    (sameLength : ∀ input image, related input image → input.length = image.length)
    (least : Nat) (combinator : String) :
    Simulation related tracked (repeated least combinator parser)
      (repeated least combinator other) := by
  intro input image alike
  have carries := simulation input image alike
  rw [outcome_repeated, outcome_repeated]
  cases ended : (parser input).outcome with
  | error halt =>
      rw [ended] at carries
      intro isTracked
      rw [carries isTracked]
  | ok result =>
      rw [ended] at carries
      cases result with
      | failure error =>
          rw [show (other image).outcome = _ from carries]
          by_cases enough : least = 0
          · simp only [if_pos enough]
            exact ⟨image, rfl, alike⟩
          · simp only [if_neg enough]
            exact carries_reject error
      | success value rest =>
          rcases carries with ⟨final, imageEnded, restsAlike⟩
          rw [imageEnded]
          dsimp only
          rw [← sameLength input image alike, ← sameLength rest final restsAlike]
          by_cases shorter : rest.length < input.length
          · simp only [if_pos shorter]
            have later :=
              simulation.repeated sameLength (least - 1) combinator rest final restsAlike
            exact later.behind [value]
          · simp only [if_neg shorter]
            exact carries_reject _
termination_by input => input.length

/-! ## Chains -/

variable {operator otherOperator : Parser ω}

theorem Simulation.chainRound {stop otherStop : Run (Result β)}
    {proceed otherProceed : ω → α → Stream → Run (Result β)}
    (simulation : Simulation related tracked parser other)
    (operatorSimulation : Simulation related tracked operator otherOperator)
    (stops : Carries related tracked stop.outcome otherStop.outcome)
    (proceeds : ∀ operation operand middle final, related middle final →
      Carries related tracked (proceed operation operand middle).outcome
        (otherProceed operation operand final).outcome) (alike : related input image) :
    Carries related tracked (chainRound parser operator stop proceed input).outcome
      (chainRound other otherOperator otherStop otherProceed image).outcome := by
  refine (operatorSimulation input image alike).andThen ?_ fun _ => stops
  intro operation behind imageBehind behindAlike
  exact (simulation behind imageBehind behindAlike).andThen (proceeds operation) carries_reject

/-! ### More rounds

The other chain may take more rounds, unless a run that uses up its rounds is one of those that
have to be repeated. -/

variable {rounds more : Nat}

theorem Simulation.chainLeftFrom (simulation : Simulation related tracked parser other)
    (operatorSimulation : Simulation related tracked operator otherOperator)
    (enough : rounds ≤ more) (uses : tracked .exhausted → rounds = more)
    (apply : ω → α → α → Except Fault α) (first : α) :
    Simulation related tracked (chainLeftFrom apply parser operator rounds first)
      (chainLeftFrom apply other otherOperator more first) := by
  induction rounds generalizing more first with
  | zero =>
      intro input image alike isTracked
      cases uses isTracked
      rfl
  | succ rounds fewer =>
      rcases Nat.exists_eq_add_of_le' enough with ⟨extra, rfl⟩
      intro input image alike
      rw [← Nat.add_assoc, chainLeftFrom_succ, chainLeftFrom_succ]
      refine simulation.chainRound operatorSimulation (carries_accept first alike) ?_ alike
      intro operation operand middle final restsAlike
      exact carries_ofExcept fun combined => fewer (Nat.le_add_left rounds extra)
        (fun isTracked => Nat.succ.inj (uses isTracked)) combined middle final restsAlike

theorem Simulation.links (simulation : Simulation related tracked parser other)
    (operatorSimulation : Simulation related tracked operator otherOperator)
    (enough : rounds ≤ more) (uses : tracked .exhausted → rounds = more) :
    Simulation related tracked (links parser operator rounds)
      (links other otherOperator more) := by
  induction rounds generalizing more with
  | zero =>
      intro input image alike isTracked
      cases uses isTracked
      rfl
  | succ rounds fewer =>
      rcases Nat.exists_eq_add_of_le' enough with ⟨extra, rfl⟩
      intro input image alike
      rw [← Nat.add_assoc, links_succ, links_succ]
      refine simulation.chainRound operatorSimulation (carries_accept [] alike) ?_ alike
      intro operation operand middle final restsAlike
      have later := fewer (Nat.le_add_left rounds extra)
        (fun isTracked => Nat.succ.inj (uses isTracked)) middle final restsAlike
      exact later.onSuccess fun _ _ _ => carries_accept _

theorem Simulation.chainLeft_of_le (simulation : Simulation related tracked parser other)
    (operatorSimulation : Simulation related tracked operator otherOperator)
    (enough : rounds ≤ more) (uses : tracked .exhausted → rounds = more)
    (apply : ω → α → α → Except Fault α) :
    Simulation related tracked (chainLeft rounds apply parser operator)
      (chainLeft more apply other otherOperator) := by
  intro input image alike
  exact (simulation input image alike).onSuccess
    (simulation.chainLeftFrom operatorSimulation enough uses apply)

theorem Simulation.chainRight_of_le (simulation : Simulation related tracked parser other)
    (operatorSimulation : Simulation related tracked operator otherOperator)
    (enough : rounds ≤ more) (uses : tracked .exhausted → rounds = more)
    (apply : ω → α → α → Except Fault α) :
    Simulation related tracked (chainRight rounds apply parser operator)
      (chainRight more apply other otherOperator) := by
  intro input image alike
  refine (simulation input image alike).onSuccess ?_
  intro first middle final restsAlike
  have linked := simulation.links operatorSimulation enough uses middle final restsAlike
  refine linked.onSuccess ?_
  intro found last otherLast lastAlike
  exact carries_ofExcept fun folded => carries_accept folded lastAlike

/-! ### The same rounds -/

theorem Simulation.chainLeft (simulation : Simulation related tracked parser other)
    (operatorSimulation : Simulation related tracked operator otherOperator) (rounds : Nat)
    (apply : ω → α → α → Except Fault α) :
    Simulation related tracked (chainLeft rounds apply parser operator)
      (chainLeft rounds apply other otherOperator) :=
  simulation.chainLeft_of_le operatorSimulation (Nat.le_refl rounds) (fun _ => rfl) apply

theorem Simulation.chainRight (simulation : Simulation related tracked parser other)
    (operatorSimulation : Simulation related tracked operator otherOperator) (rounds : Nat)
    (apply : ω → α → α → Except Fault α) :
    Simulation related tracked (chainRight rounds apply parser operator)
      (chainRight rounds apply other otherOperator) :=
  simulation.chainRight_of_le operatorSimulation (Nat.le_refl rounds) (fun _ => rfl) apply

end Combinators

end Parser

end OrderedChoice
