import OrderedChoice.Proofs.Chain
import OrderedChoice.Proofs.Parser.Sequence

/-!
# Grouping of chains

One chain applies its operators while it reads them, the other one from the back when all is
read.  Where the operators always return, this makes no difference to what is read: both
chains read the same terms and operators, end in the same way, and differ only in how their
values are grouped.
-/

namespace OrderedChoice

namespace Parser

variable {α β γ ω : Type} {term : Parser α} {operator : Parser ω}
  {apply : ω → α → α → Except Fault α} {f : ω → α → α → α} {domain : α → Prop} {rounds : Nat}
  {input rest : Stream} {found : List (ω × α)} {first : α}

/-! ## The two groupings -/

/-- The value of a chain that groups to the left. -/
def nestLeft (f : ω → α → α → α) : (first : α) → List (ω × α) → α
  | first, [] => first
  | first, (operation, operand) :: more => nestLeft f (f operation first operand) more

/-- The value of a chain that groups to the right. -/
def nestRight (f : ω → α → α → α) : (first : α) → List (ω × α) → α
  | first, [] => first
  | first, (operation, operand) :: more => f operation first (nestRight f operand more)

/-- The operators that are read return on a domain to which all terms belong, and never lead
out of it. -/
structure Operates (apply : ω → α → α → Except Fault α) (f : ω → α → α → α)
    (domain : α → Prop) (term : Parser α) (operator : Parser ω) : Prop where
  term_mem : ∀ {input value rest}, term.Succeeds input value rest → domain value
  returns : ∀ {input operation rest}, operator.Succeeds input operation rest →
    ∀ {first second}, domain first → domain second →
      apply operation first second = .ok (f operation first second)
  result_mem : ∀ {input operation rest}, operator.Succeeds input operation rest →
    ∀ {first second}, domain first → domain second → domain (f operation first second)

theorem Operates.nestRight_mem (operates : Operates apply f domain term operator)
    (linked : Linked term operator input found rest) (member : domain first) :
    domain (nestRight f first found) := by
  induction linked generalizing first with
  | none input => exact member
  | link operated followed _ later =>
      exact operates.result_mem operated member (later (operates.term_mem followed))

theorem Operates.foldLinks_eq (operates : Operates apply f domain term operator)
    (linked : Linked term operator input found rest) (member : domain first) :
    foldLinks apply first found = .ok (nestRight f first found) := by
  induction linked generalizing first with
  | none input => rfl
  | link operated followed linked later =>
      have operand := operates.term_mem followed
      rw [foldLinks, later operand]
      exact operates.returns operated member (operates.nestRight_mem linked operand)

/-- The operators that are read are all one operation, which is associative on the domain. -/
structure IsSingle (f : ω → α → α → α) (g : α → α → α) (domain : α → Prop)
    (operator : Parser ω) : Prop where
  eq : ∀ {input operation rest}, operator.Succeeds input operation rest → f operation = g
  assoc : ∀ {x y z}, domain x → domain y → domain z → g (g x y) z = g x (g y z)

variable {g : α → α → α}

theorem Operates.nestLeft_append (operates : Operates apply f domain term operator)
    (single : IsSingle f g domain operator) (linked : Linked term operator input found rest)
    {first second : α} (firstMember : domain first) (secondMember : domain second) :
    nestLeft f (g first second) found = g first (nestLeft f second found) := by
  induction linked generalizing second with
  | none input => rfl
  | link operated followed linked later =>
      have operand := operates.term_mem followed
      have combined := operates.result_mem operated secondMember operand
      rw [single.eq operated] at combined
      rw [nestLeft, nestLeft, single.eq operated,
        single.assoc firstMember secondMember operand, later combined]

/-- With a single associative operation the grouping does not show. -/
theorem Operates.nestLeft_eq_nestRight (operates : Operates apply f domain term operator)
    (single : IsSingle f g domain operator) (linked : Linked term operator input found rest)
    (member : domain first) : nestLeft f first found = nestRight f first found := by
  induction linked generalizing first with
  | none input => rfl
  | link operated followed linked later =>
      have operand := operates.term_mem followed
      rw [nestLeft, nestRight, single.eq operated,
        operates.nestLeft_append single linked member operand, later operand]

/-! ## Reading first and applying later -/

/-- A round that goes on in the same way is the same round. -/
theorem chainRound_congr {stop : Run (Result β)} {proceed other : ω → α → Stream → Run (Result β)}
    (same : ∀ operation operand behind middle, operator.Succeeds input operation behind →
      term.Succeeds behind operand middle →
      proceed operation operand middle = other operation operand middle) :
    chainRound term operator stop proceed input = chainRound term operator stop other input := by
  refine Run.bind_congr ?_
  intro operated started
  cases operated with
  | failure cause => rfl
  | success operation behind =>
      refine Run.bind_congr ?_
      intro followed read
      cases followed with
      | failure cause => rfl
      | success operand middle => exact same operation operand behind middle started read

/-- The value of a round is changed in whichever way the round ends. -/
theorem map_of_chainRound {read : Parser β} {stop : Run (Result β)}
    {proceed : ω → α → Stream → Run (Result β)} (h : β → γ)
    (round : read input = chainRound term operator stop proceed input) :
    read.map h input = chainRound term operator (map h (fun _ => stop) input)
      (fun operation operand middle => map h (proceed operation operand) middle) input := by
  refine (congrArg (· >>= _) round).trans ((Run.bind_assoc _ _ _).trans (Run.bind_congr ?_))
  intro operated _
  cases operated with
  | failure cause => rfl
  | success operation behind =>
      refine (Run.bind_assoc _ _ _).trans (Run.bind_congr ?_)
      intro followed _
      cases followed with
      | failure cause => rfl
      | success operand middle => rfl

/-- The left chain does what reading all links and then applying the operators does. -/
theorem Operates.chainLeftFrom_eq (operates : Operates apply f domain term operator)
    (rounds : Nat) (member : domain first) (input : Stream) :
    chainLeftFrom apply term operator rounds first input =
      map (nestLeft f first) (links term operator rounds) input := by
  induction rounds generalizing first input with
  | zero => rfl
  | succ rounds fewer =>
      rw [chainLeftFrom_succ, map_of_chainRound _ (links_succ term operator rounds input)]
      refine chainRound_congr ?_
      intro operation operand behind middle operated followed
      have operandMember := operates.term_mem followed
      rw [operates.returns operated member operandMember]
      refine (fewer (operates.result_mem operated member operandMember) middle).trans ?_
      exact (congrFun (onSuccess_map (links term operator rounds)
        (fun more final => accept ((operation, operand) :: more) final) (nestLeft f first))
        middle).symm

/-- Read a whole chain, and then make its value of the first term and of the links. -/
def readChain (value : α → List (ω × α) → β) (rounds : Nat) (term : Parser α)
    (operator : Parser ω) : Parser β :=
  term.onSuccess fun first middle => map (value first) (links term operator rounds) middle

theorem Operates.chainLeft_eq (operates : Operates apply f domain term operator) (rounds : Nat) :
    chainLeft rounds apply term operator = readChain (nestLeft f) rounds term operator := by
  funext input
  refine onSuccess_congr ?_
  intro first middle success
  exact operates.chainLeftFrom_eq rounds (operates.term_mem success) middle

theorem Operates.chainRight_eq (operates : Operates apply f domain term operator) (rounds : Nat) :
    chainRight rounds apply term operator = readChain (nestRight f) rounds term operator := by
  funext input
  refine onSuccess_congr ?_
  intro first middle success
  refine onSuccess_congr ?_
  intro more rest read
  rw [operates.foldLinks_eq (succeeds_links_iff.mp read).1 (operates.term_mem success)]
  rfl

end Parser

end OrderedChoice
