import OrderedChoice.Action.Custom
import OrderedChoice.Proofs.Chain.Grouping
import OrderedChoice.Proofs.Grammar.Ending
import OrderedChoice.Proofs.Parser.Progress
import OrderedChoice.Scanner.Number

/-!
# Agreement of the two chains

Where every round of a chain shortens what is left of the input, the first term decides how
many rounds there can be.  The two chains read the same terms and operators, so they succeed
on the same inputs with the same rest, fail with the same error, and end after as many
rounds.
-/

namespace OrderedChoice

namespace Parser

variable {α β ω : Type} {term : Parser α} {operator : Parser ω}
  {apply : ω → α → α → Except Fault α} {f : ω → α → α → α} {domain : α → Prop} {rounds : Nat}
  {input rest : Stream} {found : List (ω × α)} {error : ParseError} {halt : Halt}

/-- An operator with a term behind it leaves less than it was given. -/
def Shortens (term : Parser α) (operator : Parser ω) : Prop :=
  ∀ {input operation behind operand rest}, operator.Succeeds input operation behind →
    term.Succeeds behind operand rest → rest.length < input.length

theorem Linked.length_add_le (linked : Linked term operator input found rest)
    (shortens : Shortens term operator) : found.length + rest.length ≤ input.length := by
  induction linked with
  | none input => exact Nat.le_of_eq (Nat.zero_add _)
  | link operated followed _ bounded =>
      have shorter := shortens operated followed
      rw [List.length_cons]
      omega

/-- A round does not return, as the operator does not or the term behind it does not. -/
def HaltsAt (term : Parser α) (operator : Parser ω) (input : Stream) (halt : Halt) : Prop :=
  (operator input).outcome = .error halt ∨
    ∃ operation behind, operator.Succeeds input operation behind ∧
      (term behind).outcome = .error halt

theorem chainRound_halts_iff {stop : Run (Result β)} {proceed : ω → α → Stream → Run (Result β)} :
    (chainRound term operator stop proceed input).outcome = .error halt ↔
      (∃ cause, operator.Fails input cause) ∧ stop.outcome = .error halt ∨
      HaltsAt term operator input halt ∨
      ∃ operation operand behind middle, operator.Succeeds input operation behind ∧
        term.Succeeds behind operand middle ∧
        (proceed operation operand middle).outcome = .error halt := by
  unfold chainRound
  rw [Run.outcome_bind_eq_error_iff]
  constructor
  · intro ended
    rcases ended with halted | ⟨operated, started, ended⟩
    · exact Or.inr (Or.inl (Or.inl halted))
    cases operated with
    | failure cause => exact Or.inl ⟨⟨cause, started⟩, ended⟩
    | success operation behind =>
        rcases Run.outcome_bind_eq_error_iff.mp ended with halted | ⟨followed, read, ended⟩
        · exact Or.inr (Or.inl (Or.inr ⟨operation, behind, started, halted⟩))
        cases followed with
        | failure cause => cases ended
        | success operand middle =>
            exact Or.inr (Or.inr ⟨operation, operand, behind, middle, started, read, ended⟩)
  · intro ended
    rcases ended with ⟨⟨cause, failure⟩, stopped⟩ | (halted | ⟨operation, behind, operated, halted⟩) |
      ⟨operation, operand, behind, middle, operated, followed, proceeded⟩
    · exact Or.inr ⟨.failure cause, failure, stopped⟩
    · exact Or.inl halted
    · exact Or.inr ⟨.success operation behind, operated,
        Run.outcome_bind_eq_error_iff.mpr (Or.inl halted)⟩
    · exact Or.inr ⟨.success operation behind, operated, Run.outcome_bind_eq_error_iff.mpr
        (Or.inr ⟨.success operand middle, followed, proceeded⟩)⟩

/-- With a round for every element and one more, reading the links never runs out of rounds:
it does not return only where one of its parts does not. -/
theorem halts_links_iff (shortens : Shortens term operator) (room : input.length < rounds) :
    (links term operator rounds input).outcome = .error halt ↔
      ∃ found current, Linked term operator input found current ∧
        HaltsAt term operator current halt := by
  induction rounds generalizing input with
  | zero => exact absurd room (Nat.not_lt_zero _)
  | succ rounds fewer =>
      rw [links_succ]
      refine chainRound_halts_iff.trans ?_
      constructor
      · intro ended
        rcases ended with ⟨_, stopped⟩ | halted |
          ⟨operation, operand, behind, middle, operated, followed, proceeded⟩
        · cases stopped
        · exact ⟨[], input, .none input, halted⟩
        · have shorter := shortens operated followed
          rcases halts_onSuccess_iff.mp proceeded with read | ⟨_, _, _, impossible⟩
          · rcases (fewer (by omega)).mp read with ⟨found, current, linked, halted⟩
            exact ⟨(operation, operand) :: found, current, .link operated followed linked, halted⟩
          · cases impossible
      · intro ended
        rcases ended with ⟨found, current, linked, halted⟩
        cases linked with
        | none => exact Or.inr (Or.inl halted)
        | link operated followed later =>
            have shorter := shortens operated followed
            have read := (fewer (by omega)).mpr ⟨_, current, later, halted⟩
            exact Or.inr (Or.inr ⟨_, _, _, _, operated, followed,
              halts_onSuccess_iff.mpr (Or.inl read)⟩)

/-! ## Whole chains -/

/-- A first term and then operators and terms are read alternately, each where the one before
it ended. -/
def Alternates (term : Parser α) (operator : Parser ω) (input : Stream) (first : α)
    (found : List (ω × α)) (rest : Stream) : Prop :=
  ∃ middle, term.Succeeds input first middle ∧ Linked term operator middle found rest

section ReadChain

variable {value : α → List (ω × α) → β} {result : β}

/-- The rounds suffice for whatever the first term leaves. -/
def HasRoom (term : Parser α) (input : Stream) (rounds : Nat) : Prop :=
  ∀ {first middle}, term.Succeeds input first middle → middle.length < rounds

/-- A first term that leaves no more than it was given leaves room for as many rounds as the
input has elements, and one more. -/
theorem hasRoom_of_length_le
    (leaves : ∀ {first middle}, term.Succeeds input first middle → middle.length ≤ input.length) :
    HasRoom term input (input.length + 1) :=
  fun success => Nat.lt_succ_of_le (leaves success)

theorem succeeds_readChain_iff (shortens : Shortens term operator)
    (room : HasRoom term input rounds) :
    (readChain value rounds term operator).Succeeds input result rest ↔
      ∃ first found, Alternates term operator input first found rest ∧
        (∃ cause, operator.Fails rest cause) ∧ result = value first found := by
  refine succeeds_onSuccess_iff.trans ?_
  constructor
  · intro ended
    rcases ended with ⟨first, middle, started, ended⟩
    rcases succeeds_map_iff.mp ended with ⟨found, read, rfl⟩
    rcases succeeds_links_iff.mp read with ⟨linked, _, failure⟩
    exact ⟨first, found, ⟨middle, started, linked⟩, failure, rfl⟩
  · intro ended
    rcases ended with ⟨first, found, ⟨middle, started, linked⟩, failure, rfl⟩
    have few := linked.length_add_le shortens
    have short : found.length < rounds :=
      Nat.lt_of_le_of_lt (Nat.le_of_add_right_le few) (room started)
    exact ⟨first, middle, started, succeeds_map_iff.mpr
      ⟨found, succeeds_links_iff.mpr ⟨linked, short, failure⟩, rfl⟩⟩

theorem fails_readChain_iff (shortens : Shortens term operator)
    (room : HasRoom term input rounds) :
    (readChain value rounds term operator).Fails input error ↔
      term.Fails input error ∨
        ∃ first found current, Alternates term operator input first found current ∧
          Dangles term operator current error := by
  refine fails_onSuccess_iff.trans (or_congr Iff.rfl ?_)
  constructor
  · intro ended
    rcases ended with ⟨first, middle, started, ended⟩
    rcases fails_links_iff.mp (fails_map_iff.mp ended) with ⟨found, current, linked, _, dangling⟩
    exact ⟨first, found, current, ⟨middle, started, linked⟩, dangling⟩
  · intro ended
    rcases ended with ⟨first, found, current, ⟨middle, started, linked⟩, dangling⟩
    have few := linked.length_add_le shortens
    have short : found.length < rounds :=
      Nat.lt_of_le_of_lt (Nat.le_of_add_right_le few) (room started)
    exact ⟨first, middle, started, fails_map_iff.mpr
      (fails_links_iff.mpr ⟨found, current, linked, short, dangling⟩)⟩

theorem halts_readChain_iff (shortens : Shortens term operator)
    (room : HasRoom term input rounds) :
    (readChain value rounds term operator input).outcome = .error halt ↔
      (term input).outcome = .error halt ∨
        ∃ first found current, Alternates term operator input first found current ∧
          HaltsAt term operator current halt := by
  refine halts_onSuccess_iff.trans (or_congr Iff.rfl ?_)
  constructor
  · intro ended
    rcases ended with ⟨first, middle, started, ended⟩
    rcases (halts_links_iff shortens (room started)).mp (halts_map_iff.mp ended) with
      ⟨found, current, linked, halted⟩
    exact ⟨first, found, current, ⟨middle, started, linked⟩, halted⟩
  · intro ended
    rcases ended with ⟨first, found, current, ⟨middle, started, linked⟩, halted⟩
    exact ⟨first, middle, started, halts_map_iff.mpr
      ((halts_links_iff shortens (room started)).mpr ⟨found, current, linked, halted⟩)⟩

/-- What a chain makes of its terms and operators does not show in the log. -/
theorem log_readChain {γ : Type} (value : α → List (ω × α) → β) (other : α → List (ω × α) → γ) :
    (readChain value rounds term operator input).log =
      (readChain other rounds term operator input).log := by
  refine (Run.log_bind _ _).trans (Eq.trans ?_ (Run.log_bind _ _).symm)
  cases (term input).outcome with
  | error halt => rfl
  | ok result =>
      cases result with
      | failure error => rfl
      | success first middle =>
          exact congrArg _ ((log_map _ _ _).trans (log_map _ _ _).symm)

end ReadChain

/-- The two chains agree wherever the operators return and every round shortens what is left
of the input, within as many rounds as there are elements behind the first term, and one
more.  Both read the same terms and operators alternately until an operator fails, and leave
the same rest; the values are grouped to the left by one and to the right by the other, and
are the same for a single associative operation.  Both fail with the error of the first
term, or with that of a term behind an operator.  Neither runs out of rounds, as both return
wherever their parts do. -/
theorem chains_agree (operates : Operates apply f domain term operator)
    (shortens : Shortens term operator) (room : HasRoom term input rounds) :
    let left := chainLeft rounds apply term operator
    let right := chainRight rounds apply term operator
    (∀ value rest, left.Succeeds input value rest ↔
      ∃ first found, Alternates term operator input first found rest ∧
        (∃ cause, operator.Fails rest cause) ∧ value = nestLeft f first found) ∧
    (∀ value rest, right.Succeeds input value rest ↔
      ∃ first found, Alternates term operator input first found rest ∧
        (∃ cause, operator.Fails rest cause) ∧ value = nestRight f first found) ∧
    (∀ rest, (∃ value, left.Succeeds input value rest) ↔
      ∃ value, right.Succeeds input value rest) ∧
    (∀ error, left.Fails input error ↔
      term.Fails input error ∨
        ∃ first found current, Alternates term operator input first found current ∧
          Dangles term operator current error) ∧
    (∀ error, left.Fails input error ↔ right.Fails input error) ∧
    (∀ halt, (left input).outcome = .error halt ↔
      (term input).outcome = .error halt ∨
        ∃ first found current, Alternates term operator input first found current ∧
          HaltsAt term operator current halt) ∧
    (∀ halt, (left input).outcome = .error halt ↔ (right input).outcome = .error halt) ∧
    (left input).log = (right input).log ∧
    (∀ g, IsSingle f g domain operator → ∀ value other rest,
      left.Succeeds input value rest → right.Succeeds input other rest → value = other) := by
  intro left right
  have leftReads : left = readChain (nestLeft f) rounds term operator :=
    operates.chainLeft_eq rounds
  have rightReads : right = readChain (nestRight f) rounds term operator :=
    operates.chainRight_eq rounds
  rw [leftReads, rightReads]
  refine ⟨fun _ _ => succeeds_readChain_iff shortens room,
    fun _ _ => succeeds_readChain_iff shortens room, ?_, fun _ => fails_readChain_iff shortens room,
    ?_, fun _ => halts_readChain_iff shortens room, ?_, log_readChain _ _, ?_⟩
  · intro rest
    simp only [succeeds_readChain_iff shortens room]
    constructor <;>
    · intro success
      rcases success with ⟨_, first, found, alternates, failure, _⟩
      exact ⟨_, first, found, alternates, failure, rfl⟩
  · intro error
    rw [fails_readChain_iff shortens room, fails_readChain_iff shortens room]
  · intro halt
    rw [halts_readChain_iff shortens room, halts_readChain_iff shortens room]
  · intro g single value other rest leftSuccess rightSuccess
    rcases succeeds_onSuccess_iff.mp leftSuccess with ⟨first, middle, started, ended⟩
    rcases succeeds_onSuccess_iff.mp rightSuccess with ⟨_, _, startedAgain, endedAgain⟩
    rcases started.unique startedAgain with ⟨rfl, rfl⟩
    rcases succeeds_map_iff.mp ended with ⟨found, read, rfl⟩
    rcases succeeds_map_iff.mp endedAgain with ⟨_, readAgain, rfl⟩
    rcases Succeeds.unique read readAgain with ⟨rfl, _⟩
    exact operates.nestLeft_eq_nestRight single (succeeds_links_iff.mp read).1
      (operates.term_mem started)

/-! ## Chains of integers -/

section Integers

variable {value : Value}

/-- The value that an operator gives where it returns. -/
def applied (operation first second : Value) : Value :=
  match operation.apply first second with
  | .ok value => value
  | .error _ => .nothing

/-- The values on which the operators of integer arithmetic return. -/
def IsInteger (value : Value) : Prop := ∃ number, value = .int number

/-- A parser that always yields one operator returns on integers where that operator does. -/
theorem operates_constant {term sign : Parser Value} {operation : Operator}
    (terms : ∀ {input value rest}, term.Succeeds input value rest → IsInteger value)
    (closed : ∀ first second : Int, ∃ result : Int,
      operation.apply (.int first) (.int second) = .ok (.int result)) :
    Operates Value.apply applied IsInteger term (sign.map fun _ => .operator operation) := by
  have always : ∀ {input found rest},
      (sign.map fun _ => .operator operation).Succeeds input found rest →
        found = Value.operator operation := by
    intro input found rest operated
    rcases succeeds_map_iff.mp operated with ⟨_, _, same⟩
    exact same.symm
  refine ⟨terms, ?_, ?_⟩
  · intro input found rest operated first second firstMember secondMember
    rcases firstMember with ⟨first, rfl⟩
    rcases secondMember with ⟨second, rfl⟩
    rcases closed first second with ⟨result, returned⟩
    rw [always operated, applied, Value.apply, returned]
  · intro input found rest operated first second firstMember secondMember
    rcases firstMember with ⟨first, rfl⟩
    rcases secondMember with ⟨second, rfl⟩
    rcases closed first second with ⟨result, returned⟩
    refine ⟨result, ?_⟩
    rw [always operated, applied, Value.apply, returned]

/-- A given character. -/
def letter (character : Char) : Parser Value :=
  token (fun element => .ok (if element == Value.ofChar character then some element else none))
    (Value.ofChar character) Value.shown

/-- A decimal digit as a number. -/
def digitTerm : Parser Value := token Scanner.decimalValue (.text "digit") Value.shown

/-- A minus sign as an operator. -/
def minusOperator : Parser Value := (letter '-').map fun _ => .operator .subtract

theorem isInteger_of_digitTerm (success : digitTerm.Succeeds input value rest) :
    IsInteger value := by
  rcases succeeds_token_iff.mp success with ⟨element, _, selected, _⟩
  unfold Scanner.decimalValue at selected
  cases found : Scanner.characters element with
  | error cause =>
      rw [found] at selected
      cases selected
  | ok characters =>
      rw [found] at selected
      change ite _ _ _ = _ at selected
      split at selected
      · cases selected
      · cases selected
        exact ⟨_, rfl⟩

theorem digitTerm_shortens : Shortens digitTerm minusOperator := by
  intro input operation behind operand rest operated followed
  rcases succeeds_map_iff.mp operated with ⟨_, read, _⟩
  have first := read.shorter_of_token
  have second := followed.shorter_of_token
  omega

/-- Differences of digits, grouped to the left and to the right. -/
theorem chains_of_differences_agree :
    let input := Stream.text "7-2-1".toList
    Operates Value.apply applied IsInteger digitTerm minusOperator ∧
    Shortens digitTerm minusOperator ∧
    HasRoom digitTerm input (input.length + 1) ∧
    (chainLeft (input.length + 1) Value.apply digitTerm minusOperator).Succeeds input
      (.int 4) (.text []) ∧
    (chainRight (input.length + 1) Value.apply digitTerm minusOperator).Succeeds input
      (.int 6) (.text []) := by
  intro input
  have operates : Operates Value.apply applied IsInteger digitTerm minusOperator :=
    operates_constant isInteger_of_digitTerm (fun first second => ⟨first - second, rfl⟩)
  have room : HasRoom digitTerm input (input.length + 1) :=
    hasRoom_of_length_le fun success =>
      Nat.le_of_succ_le (Nat.le_of_eq success.shorter_of_token)
  have agree := chains_agree operates digitTerm_shortens room
  have alternates : Alternates digitTerm minusOperator input (.int 7)
      [(.operator .subtract, .int 2), (.operator .subtract, .int 1)] (.text []) :=
    ⟨_, rfl, .link rfl rfl (.link rfl rfl (.none _))⟩
  have ended : ∃ cause, minusOperator.Fails (.text []) cause := ⟨_, rfl⟩
  exact ⟨operates, digitTerm_shortens, room, (agree.1 _ _).mpr ⟨_, _, alternates, ended, rfl⟩,
    (agree.2.1 _ _).mpr ⟨_, _, alternates, ended, rfl⟩⟩

theorem Succeeds.eq_of_push {offered inserted : Value}
    (success : (Custom.push offered inserted).Succeeds input value rest) : value = offered := by
  unfold Succeeds Custom.push at success
  dsimp only at success
  split at success
  · cases success
    rfl
  · cases success

/-- One, without reading anything or by putting four letters in the place of a letter. -/
def growingTerm : Parser Value :=
  ((letter 'x').seqRight (Custom.push (.int 1) (.text "aaaa"))).orElse (Parser.pure (.int 1))

/-- A letter as an operator, unless the letter behind it would be replaced. -/
def letterOperator : Parser Value :=
  ((letter 'a').seqLeft ((letter 'x').notFollowedBy Value.shown)).map fun _ => .operator .add

theorem growingTerm_shortens : Shortens growingTerm letterOperator := by
  intro input operation behind operand rest operated followed
  rcases succeeds_map_iff.mp operated with ⟨_, read, _⟩
  rcases succeeds_seqLeft_iff.mp read with ⟨middle, _, taken, guarded⟩
  rcases succeeds_notFollowedBy_iff.mp guarded with ⟨rfl, cause, absent⟩
  rcases succeeds_orElse_iff.mp followed with replaced | ⟨_, kept⟩
  · -- the operator has seen that there is no letter to be replaced
    rcases succeeds_seqRight_iff.mp replaced with ⟨_, _, present, _⟩
    exact absurd absent present.not_fails
  · rcases succeeds_pure_iff.mp kept with ⟨_, rfl⟩
    have shorter := taken.shorter_of_token
    omega

theorem isInteger_of_growingTerm (success : growingTerm.Succeeds input value rest) :
    IsInteger value := by
  rcases succeeds_orElse_iff.mp success with replaced | ⟨_, kept⟩
  · rcases succeeds_seqRight_iff.mp replaced with ⟨_, _, _, pushed⟩
    exact ⟨1, pushed.eq_of_push⟩
  · exact ⟨1, (succeeds_pure_iff.mp kept).1⟩

/-- The length of the input alone does not bound the rounds: the first term may leave more
than it was given. -/
theorem rounds_exceed_input :
    Operates Value.apply applied IsInteger growingTerm letterOperator ∧
    Shortens growingTerm letterOperator ∧
    (chainLeft ((Stream.text ['x']).length + 1) Value.apply growingTerm letterOperator
      (.text ['x'])).outcome = .error .exhausted ∧
    (chainRight ((Stream.text ['x']).length + 1) Value.apply growingTerm letterOperator
      (.text ['x'])).outcome = .error .exhausted ∧
    (chainLeft 5 Value.apply growingTerm letterOperator).Succeeds (.text ['x'])
      (.int 5) (.text []) := by
  refine ⟨operates_constant isInteger_of_growingTerm (fun first second => ⟨first + second, rfl⟩),
    growingTerm_shortens, ?_, ?_, ?_⟩
  · rfl
  · rfl
  · rfl

end Integers

end Parser

end OrderedChoice
