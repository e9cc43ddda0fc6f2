import OrderedChoice.Proofs.Parser.Region

/-!
# Properties of composed runs

A combinator runs its parts, writes nothing itself and raises no fault itself.  A property of
runs is therefore one of its own as soon as the silent answers have it and a run hands it over
to the whole together with its continuation.  A part is only asked for the property on what
the run reaches: the inputs that the parts before it leave, and the values that they yield.
-/

namespace OrderedChoice

namespace Run

variable {α β ω : Type} {property : ∀ {α : Type}, Run α → Prop}

/-- The property holds of answers that write nothing, and of every run that goes on when it
holds of both of its parts. -/
structure IsCompositional (property : ∀ {α : Type}, Run α → Prop) : Prop where
  answer : ∀ {α : Type} (value : α), property (Run.answer value)
  bind : ∀ {α β : Type} {run : Run α} {next : α → Run β}, property run →
    (∀ value, run.outcome = .ok value → property (next value)) → property (run >>= next)

/-- Callbacks that follow each other run like one callback. -/
theorem ofExcept_bind (callback : Except Fault α) (next : α → Except Fault β) :
    ofExcept (callback >>= next) = ofExcept callback >>= fun value => ofExcept (next value) := by
  cases callback with
  | error cause => rfl
  | ok value => rfl

namespace IsCompositional

variable {parser term : Parser α} {other : Parser β} {operator : Parser ω} {input : Stream}

section OnePart

theorem accept (compositional : IsCompositional property) (value : α) (rest : Stream) :
    property (Parser.accept value rest) :=
  compositional.answer _

theorem reject (compositional : IsCompositional property) (error : ParseError) :
    property (Parser.reject error : Run (Result α)) :=
  compositional.answer _

theorem onSuccess {next : α → Stream → Run (Result β)} (compositional : IsCompositional property)
    (holds : property (parser input))
    (nextHolds : ∀ value rest, parser.Succeeds input value rest → property (next value rest)) :
    property (parser.onSuccess next input) := by
  refine compositional.bind holds ?_
  intro result returned
  cases result with
  | success value rest => exact nextHolds value rest returned
  | failure error => exact compositional.reject error

theorem map (compositional : IsCompositional property) (holds : property (parser input))
    (f : α → β) : property (parser.map f input) :=
  compositional.onSuccess holds fun _ _ _ => compositional.accept _ _

theorem mapM {f : α → Except Fault β} (compositional : IsCompositional property)
    (holds : property (parser input))
    (called : ∀ value rest, parser.Succeeds input value rest → property (ofExcept (f value))) :
    property (parser.mapM f input) := by
  refine compositional.onSuccess holds ?_
  intro value rest success
  exact compositional.bind (called value rest success) fun _ _ => compositional.accept _ _

theorem filter {check : α → Except Fault (Option ParseError)}
    (compositional : IsCompositional property) (holds : property (parser input))
    (called : ∀ value rest, parser.Succeeds input value rest →
      property (ofExcept (check value))) :
    property (parser.filter check input) := by
  refine compositional.onSuccess holds ?_
  intro value rest success
  refine compositional.bind (called value rest success) ?_
  intro verdict _
  cases verdict with
  | none => exact compositional.accept value rest
  | some error => exact compositional.reject _

theorem lookAhead (compositional : IsCompositional property) (holds : property (parser input)) :
    property (parser.lookAhead input) :=
  compositional.onSuccess holds fun _ _ _ => compositional.accept _ _

theorem notFollowedBy (compositional : IsCompositional property)
    (holds : property (parser input)) (display : α → String) :
    property (parser.notFollowedBy display input) := by
  refine compositional.bind holds ?_
  intro result _
  cases result with
  | success value rest => exact compositional.reject _
  | failure error => exact compositional.accept () input

end OnePart

/-! ## Primitives -/

section Primitives

theorem token {select : Value → Except Fault (Option α)}
    (compositional : IsCompositional property)
    (called : ∀ element, input.head? = some element → property (ofExcept (select element)))
    (expected : Value) (display : Value → String) :
    property (Parser.token select expected display input) := by
  unfold Parser.token
  cases first : input.head? with
  | none => exact compositional.reject _
  | some element =>
      refine compositional.bind (called element first) ?_
      intro selection _
      cases selection with
      | none => exact compositional.reject _
      | some value => exact compositional.accept value _

theorem tokens (compositional : IsCompositional property) (literal : Stream) (expected : Value)
    (display : Value → String) (input : Stream) :
    property (Parser.tokens literal expected display input) := by
  unfold Parser.tokens
  by_cases starts : input.startsWith literal = true
  · simp only [starts, if_true]
    exact compositional.accept _ _
  · simp only [starts]
    exact compositional.reject _

theorem endOfInput (compositional : IsCompositional property) (input : Stream) :
    property (Parser.endOfInput input) := by
  unfold Parser.endOfInput
  cases input.head? with
  | none => exact compositional.accept () input
  | some element => exact compositional.reject _

/-- A pattern for text reads every text without a fault. -/
theorem matching_text {pattern : Pattern} (compositional : IsCompositional property)
    (forText : pattern.alphabet = .text) (characters : List Char) :
    property (Parser.matching pattern (.text characters)) := by
  unfold Parser.matching
  rw [forText]
  dsimp only
  cases pattern.matchLength? characters with
  | none => exact compositional.reject _
  | some taken => exact compositional.accept _ _

end Primitives

/-! ## Several parts -/

section SeveralParts

theorem seqRight (compositional : IsCompositional property) (holds : property (parser input))
    (otherHolds : ∀ value middle, parser.Succeeds input value middle →
      property (other middle)) :
    property (parser.seqRight other input) :=
  compositional.onSuccess holds otherHolds

theorem seqLeft (compositional : IsCompositional property) (holds : property (parser input))
    (otherHolds : ∀ value middle, parser.Succeeds input value middle →
      property (other middle)) :
    property (parser.seqLeft other input) := by
  refine compositional.onSuccess holds ?_
  intro value middle success
  exact compositional.onSuccess (otherHolds value middle success) fun _ _ _ =>
    compositional.accept _ _

theorem both (compositional : IsCompositional property) (holds : property (parser input))
    (otherHolds : ∀ value middle, parser.Succeeds input value middle →
      property (other middle)) :
    property (parser.both other input) := by
  refine compositional.onSuccess holds ?_
  intro value middle success
  exact compositional.onSuccess (otherHolds value middle success) fun _ _ _ =>
    compositional.accept _ _

theorem orElse {other : Parser α} (compositional : IsCompositional property)
    (holds : property (parser input))
    (otherHolds : (∃ error, parser.Fails input error) → property (other input)) :
    property (parser.orElse other input) := by
  refine compositional.bind holds ?_
  intro result returned
  cases result with
  | success value rest => exact compositional.accept value rest
  | failure error => exact otherHolds ⟨error, returned⟩

end SeveralParts

/-! ## Repetition

What a repetition runs its parser on is described by a region that the parser keeps. -/

section Repetition

variable {region : Stream → Prop}

theorem exactly (compositional : IsCompositional property)
    (holds : ∀ input, region input → property (parser input))
    (kept : parser.Keeps region) (count : Nat) (member : region input) :
    property (parser.exactly count input) := by
  induction count generalizing input with
  | zero => exact compositional.accept [] input
  | succ count earlier =>
      refine compositional.onSuccess (holds input member) ?_
      intro value middle success
      exact compositional.onSuccess (earlier (kept input member value middle success))
        fun _ _ _ => compositional.accept _ _

theorem repeated (compositional : IsCompositional property)
    (holds : ∀ input, region input → property (parser input))
    (kept : parser.Keeps region) (least : Nat) (combinator : String) (input : Stream)
    (member : region input) :
    property (Parser.repeated least combinator parser input) := by
  rw [Parser.repeated]
  refine compositional.bind (holds input member) ?_
  intro result returned
  cases result with
  | failure error =>
      dsimp only
      by_cases enough : least = 0
      · rw [if_pos enough]
        exact compositional.accept [] input
      · rw [if_neg enough]
        exact compositional.reject error
  | success value rest =>
      dsimp only
      by_cases shorter : rest.length < input.length
      · rw [if_pos shorter]
        refine compositional.bind (compositional.repeated holds kept (least - 1) combinator rest
          (kept input member value rest returned)) ?_
        intro later _
        cases later with
        | success values final => exact compositional.accept (value :: values) final
        | failure error => exact compositional.reject error
      · rw [if_neg shorter]
        exact compositional.reject _
termination_by input.length

end Repetition

/-! ## Chains -/

section Chains

variable {apply : ω → α → α → Except Fault α}

theorem chainRound {stop : Run (Result β)} {proceed : ω → α → Stream → Run (Result β)}
    (compositional : IsCompositional property) (operates : property (operator input))
    (stops : property stop)
    (follows : ∀ operation behind, operator.Succeeds input operation behind →
      property (term behind))
    (proceeds : ∀ operation behind operand middle, operator.Succeeds input operation behind →
      term.Succeeds behind operand middle → property (proceed operation operand middle)) :
    property (Parser.chainRound term operator stop proceed input) := by
  refine compositional.bind operates ?_
  intro operated returned
  cases operated with
  | failure error => exact stops
  | success operation behind =>
      refine compositional.bind (follows operation behind returned) ?_
      intro followed ended
      cases followed with
      | failure error => exact compositional.reject error
      | success operand middle => exact proceeds operation behind operand middle returned ended

/-- What one round asks for and hands over to the next one.  The invariant speaks of the
rounds that are left, of the value accumulated so far and of the input of the round. -/
structure KeepsRound (property : ∀ {α : Type}, Run α → Prop)
    (apply : ω → α → α → Except Fault α) (term : Parser α) (operator : Parser ω)
    (invariant : Nat → α → Stream → Prop) (rounds : Nat) (accumulated : α) (input : Stream) :
    Prop where
  operates : property (operator input)
  follows : ∀ operation behind, operator.Succeeds input operation behind →
    property (term behind)
  applies : ∀ operation behind operand middle, operator.Succeeds input operation behind →
    term.Succeeds behind operand middle → property (ofExcept (apply operation accumulated operand))
  proceeds : ∀ operation behind operand middle combined,
    operator.Succeeds input operation behind → term.Succeeds behind operand middle →
    apply operation accumulated operand = .ok combined → invariant rounds combined middle

/-- A chain to the left has the property where an invariant of its rounds holds at first. -/
theorem chainLeftFrom (compositional : IsCompositional property)
    (invariant : Nat → α → Stream → Prop)
    (exhausts : ∀ accumulated input, invariant 0 accumulated input →
      property (Run.exhausted : Run (Result α)))
    (round : ∀ rounds accumulated input, invariant (rounds + 1) accumulated input →
      KeepsRound property apply term operator invariant rounds accumulated input)
    {rounds : Nat} {accumulated : α} (holds : invariant rounds accumulated input) :
    property (Parser.chainLeftFrom apply term operator rounds accumulated input) := by
  induction rounds generalizing accumulated input with
  | zero => exact exhausts accumulated input holds
  | succ rounds fewer =>
      have keeps := round rounds accumulated input holds
      rw [Parser.chainLeftFrom_succ]
      refine compositional.chainRound keeps.operates (compositional.accept _ _) keeps.follows ?_
      intro operation behind operand middle operated followed
      refine compositional.bind (keeps.applies operation behind operand middle operated followed)
        ?_
      intro combined returned
      exact fewer (keeps.proceeds operation behind operand middle combined operated followed
        (outcome_ofExcept_eq_ok_iff.mp returned))

variable {region : Stream → Prop}

theorem links (compositional : IsCompositional property)
    (exhausts : property (Run.exhausted : Run (Result (List (ω × α)))))
    (holds : ∀ input, region input → property (term input))
    (operatorHolds : ∀ input, region input → property (operator input))
    (kept : term.Keeps region) (operatorKept : operator.Keeps region) (rounds : Nat)
    (member : region input) :
    property (Parser.links term operator rounds input) := by
  induction rounds generalizing input with
  | zero => exact exhausts
  | succ rounds fewer =>
      rw [Parser.links_succ]
      refine compositional.chainRound (operatorHolds input member) (compositional.accept _ _) ?_ ?_
      · intro operation behind operated
        exact holds behind (operatorKept input member operation behind operated)
      · intro operation behind operand middle operated followed
        have behindMember := operatorKept input member operation behind operated
        have middleMember := kept behind behindMember operand middle followed
        exact compositional.onSuccess (fewer middleMember) fun _ _ _ => compositional.accept _ _

theorem foldLinks (compositional : IsCompositional property)
    (called : ∀ operation first second, property (ofExcept (apply operation first second)))
    (first : α) (found : List (ω × α)) :
    property (ofExcept (Parser.foldLinks apply first found)) := by
  induction found generalizing first with
  | nil => exact compositional.answer first
  | cons link more later =>
      rw [Parser.foldLinks, ofExcept_bind]
      exact compositional.bind (later link.2) fun second _ => called link.1 first second

theorem chainLeft (compositional : IsCompositional property)
    (exhausts : property (Run.exhausted : Run (Result α)))
    (holds : ∀ input, region input → property (term input))
    (operatorHolds : ∀ input, region input → property (operator input))
    (kept : term.Keeps region) (operatorKept : operator.Keeps region)
    (called : ∀ operation first second, property (ofExcept (apply operation first second)))
    (rounds : Nat) (member : region input) :
    property (Parser.chainLeft rounds apply term operator input) := by
  refine compositional.onSuccess (holds input member) ?_
  intro first middle success
  -- The region is all that one round hands over to the next.
  have round : ∀ rounds accumulated input, region input →
      KeepsRound property apply term operator (fun _ _ => region) rounds accumulated input := by
    intro rounds accumulated input member
    constructor
    · exact operatorHolds input member
    · intro operation behind operated
      exact holds behind (operatorKept input member operation behind operated)
    · intro operation _ operand _ _ _
      exact called operation accumulated operand
    · intro operation behind operand middle _ operated followed _
      have behindMember := operatorKept input member operation behind operated
      exact kept behind behindMember operand middle followed
  exact compositional.chainLeftFrom (fun _ _ => region) (fun _ _ _ => exhausts) round
    (kept input member first middle success)

theorem chainRight (compositional : IsCompositional property)
    (exhausts : property (Run.exhausted : Run (Result (List (ω × α)))))
    (holds : ∀ input, region input → property (term input))
    (operatorHolds : ∀ input, region input → property (operator input))
    (kept : term.Keeps region) (operatorKept : operator.Keeps region)
    (called : ∀ operation first second, property (ofExcept (apply operation first second)))
    (rounds : Nat) (member : region input) :
    property (Parser.chainRight rounds apply term operator input) := by
  refine compositional.onSuccess (holds input member) ?_
  intro first middle success
  refine compositional.onSuccess (compositional.links exhausts holds operatorHolds kept
    operatorKept rounds (kept input member first middle success)) ?_
  intro found rest _
  exact compositional.bind (compositional.foldLinks called first found) fun _ _ =>
    compositional.accept _ _

end Chains

end IsCompositional

end Run

end OrderedChoice
