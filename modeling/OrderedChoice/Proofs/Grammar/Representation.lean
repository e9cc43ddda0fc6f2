import OrderedChoice.Grammar.Rules
import OrderedChoice.Proofs.Grammar.Parts
import OrderedChoice.Proofs.Parser.Simulation
import OrderedChoice.Scanner.Number

/-!
# The kind of a stream

A text holds the same elements as the list and the tuple of its characters, and bytes hold
the same as the sequences of their numbers.  A parser that reads elements one by one cannot
tell such streams apart: it cuts them at the same places, counts the same lengths and sees
the same elements.  Only literals and patterns read several elements in the kind of the
input, so they are left out here.
-/

namespace OrderedChoice

namespace Stream

variable {stream other : Stream}

/-- The streams hold the same elements, whatever their kinds are. -/
def SameElements (stream other : Stream) : Prop := stream.toList = other.toList

theorem SameElements.length_eq (same : stream.SameElements other) :
    stream.length = other.length := by
  rw [← length_toList, ← length_toList, same]

theorem SameElements.head?_eq (same : stream.SameElements other) :
    stream.head? = other.head? := by
  rw [Stream.head?_eq, Stream.head?_eq, same]

theorem SameElements.drop (same : stream.SameElements other) (count : Nat) :
    (stream.drop count).SameElements (other.drop count) := by
  rw [SameElements, toList_drop, toList_drop, same]

end Stream

/-- What a result says apart from the kind of its rest. -/
def Result.content {α : Type} : Result α → Except ParseError (α × List Value)
  | .success value rest => .ok (value, rest.toList)
  | .failure error => .error error

namespace Parser

open OrderedChoice.Stream (SameElements)

variable {α : Type} {tracked : Halt → Prop}

/-- When every run without an answer is tracked, a simulation leaves no difference but the
kind of the rest. -/
theorem Carries.content_eq {outcome image : Except Halt (Result α)}
    (carries : Carries SameElements (fun _ => True) outcome image) :
    image.map Result.content = outcome.map Result.content := by
  cases outcome with
  | error halt => rw [carries trivial]
  | ok result =>
      cases result with
      | failure error => rw [show image = .ok (.failure error) from carries]
      | success value rest =>
          rcases carries with ⟨final, rfl, same⟩
          simp only [Except.map, Result.content, show rest.toList = final.toList from same]

/-! ## Primitives that read elements -/

theorem simulation_pure (value : α) :
    Simulation SameElements tracked (pure value) (pure value) :=
  fun _ _ same => carries_accept value same

theorem simulation_fail (content : String) :
    Simulation SameElements tracked (fail content : Parser α) (fail content) := by
  intro input image same
  unfold fail
  rw [same.length_eq]
  exact carries_reject _

theorem simulation_fault (cause : Fault) :
    Simulation SameElements tracked (fault cause : Parser α) (fault cause) :=
  fun _ _ _ _ => rfl

theorem simulation_endOfInput :
    Simulation SameElements tracked endOfInput endOfInput := by
  intro input image same
  unfold endOfInput
  rw [same.head?_eq, same.length_eq]
  cases image.head? with
  | none => exact carries_accept () same
  | some element => exact carries_reject _

theorem simulation_token (select : Value → Except Fault (Option α)) (expected : Value)
    (display : Value → String) :
    Simulation SameElements tracked (token select expected display)
      (token select expected display) := by
  intro input image same
  unfold token
  rw [same.head?_eq, same.length_eq]
  cases image.head? with
  | none => exact carries_reject _
  | some element =>
      refine carries_ofExcept ?_
      intro selection
      cases selection with
      | none => exact carries_reject _
      | some value => exact carries_accept value (same.drop 1)

theorem simulation_note (verbosity : Verbosity) (label : String) :
    Simulation SameElements tracked (note verbosity label) (note verbosity label) := by
  intro input image same
  rw [outcome_note, outcome_note]
  exact carries_accept () same

end Parser

namespace Grammar

open OrderedChoice.Stream (SameElements)

variable {ν : Type} {tracked : Halt → Prop} {verbosity : Verbosity} {rounds : Nat}
  {rules : ν → Grammar ν} {grammar : Grammar ν}

/-- Neither a literal nor a pattern, and no parser from outside. -/
def IsElementwise : Grammar ν → Prop
  | .tokens _ _ _ | .matching _ | .custom _ _ => False
  | _ => True

theorem simulation_of_elementwise {rules : ν → Parser Value}
    (elementwise : grammar.Everywhere IsElementwise)
    (rulesSimulate : ∀ name, Parser.Simulation SameElements tracked (rules name) (rules name)) :
    Parser.Simulation SameElements tracked (grammar.parser verbosity rules rounds)
      (grammar.parser verbosity rules rounds) := by
  -- A check, a negation and a repetition also compare lengths.
  have sameLength : ∀ input image, SameElements input image → input.length = image.length :=
    fun _ _ same => same.length_eq
  induction grammar with
  | pure value => exact Parser.simulation_pure value
  | fail content => exact Parser.simulation_fail content
  | endOfInput => exact Parser.simulation_endOfInput.map _
  | token select expected display => exact Parser.simulation_token select expected display
  | rule name => exact rulesSimulate name
  | named name body simulates => exact simulates elementwise.2
  | map f body simulates => exact (simulates elementwise.2).mapM f
  | filter check body simulates => exact (simulates elementwise.2).filter sameLength check
  | bind first next simulates nextSimulates =>
      exact (simulates elementwise.2.1).bind fun value =>
        nextSimulates value (elementwise.2.2 value)
  | both first second simulates secondSimulates =>
      exact ((simulates elementwise.2.1).both (secondSimulates elementwise.2.2)).map _
  | seqRight first second simulates secondSimulates =>
      exact (simulates elementwise.2.1).seqRight (secondSimulates elementwise.2.2)
  | seqLeft first second simulates secondSimulates =>
      exact (simulates elementwise.2.1).seqLeft (secondSimulates elementwise.2.2)
  | orElse first second simulates secondSimulates =>
      exact (simulates elementwise.2.1).orElse (secondSimulates elementwise.2.2)
  | exactly count body simulates => exact ((simulates elementwise.2).exactly count).map _
  | repeated least combinator body simulates =>
      exact ((simulates elementwise.2).repeated sameLength least combinator).map _
  | chainLeftBy apply term operator simulates operatorSimulates =>
      exact (simulates elementwise.2.1).chainLeft (operatorSimulates elementwise.2.2) rounds apply
  | chainRightBy apply term operator simulates operatorSimulates =>
      exact (simulates elementwise.2.1).chainRight (operatorSimulates elementwise.2.2) rounds apply
  | lookAhead body simulates => exact (simulates elementwise.2).lookAhead
  | notFollowedBy body simulates =>
      exact ((simulates elementwise.2).notFollowedBy sameLength _).map _
  | note label => exact (Parser.simulation_note verbosity label).map _
  | observed label body simulates =>
      exact (simulates elementwise.2).observed verbosity verbosity label _ label _
  | fault cause => exact Parser.simulation_fault cause
  | tokens | matching | custom => exact absurd elementwise id

theorem simulation_ruleParser (elementwise : ∀ name, (rules name).Everywhere IsElementwise)
    (depth : Nat) (name : ν) :
    Parser.Simulation SameElements tracked (ruleParser verbosity rules rounds depth name)
      (ruleParser verbosity rules rounds depth name) := by
  induction depth generalizing name with
  | zero => exact fun _ _ _ _ => rfl
  | succ depth shallower => exact simulation_of_elementwise (elementwise name) shallower

/-- On streams with the same elements a grammar ends alike, within every bound. -/
theorem content_eq_of_sameElements (rulesElementwise : ∀ name, (rules name).Everywhere IsElementwise)
    (elementwise : grammar.Everywhere IsElementwise) (verbosity : Verbosity) (bound : Nat)
    {input image : Stream} (same : input.SameElements image) :
    (grammar.parserWithin bound verbosity rules image).outcome.map Result.content =
      (grammar.parserWithin bound verbosity rules input).outcome.map Result.content :=
  (simulation_of_elementwise elementwise
    (simulation_ruleParser rulesElementwise bound) input image same).content_eq

/-- A grammar that reads its input element by element ends on a text or on bytes as it does
on the list and on the tuple of the elements: with the same value and rests of the same
elements, with the same error, or with the same fault. -/
theorem ends_alike_on_elements (rulesElementwise : ∀ name, (rules name).Everywhere IsElementwise)
    (elementwise : grammar.Everywhere IsElementwise) (verbosity : Verbosity) (input : Stream) :
    let content := fun stream => (grammar.parse verbosity rules stream).outcome.map Result.content
    content (.list input.toList) = content input ∧ content (.tuple input.toList) = content input := by
  have alike : ∀ image, input.SameElements image →
      (grammar.parse verbosity rules image).outcome.map Result.content =
        (grammar.parse verbosity rules input).outcome.map Result.content := by
    intro image same
    have sameBound : ampleBound image = ampleBound input := by
      rw [ampleBound, ampleBound, same.length_eq]
    unfold parse
    rw [sameBound]
    exact content_eq_of_sameElements rulesElementwise elementwise verbosity _ same
  exact ⟨alike _ rfl, alike _ rfl⟩

/-- Binary digits up to a point. -/
def binaryToPoint : Unit → Grammar Unit := fun _ =>
  (Scanner.exactCharacter '.').orElse (Scanner.binaryDigit.both (.rule ()))

theorem binaryToPoint_ends_alike :
    let content := fun stream =>
      ((binaryToPoint ()).parse .warning binaryToPoint stream).outcome.map Result.content
    let elements := ['1', '2', '.'].map Value.ofChar
    let error := ParseError.unexpected (.text "0 or 1") (.text "2") (some 2)
    (∀ name, (binaryToPoint name).Everywhere IsElementwise) ∧
    (binaryToPoint ()).Everywhere IsElementwise ∧
    content (.text ['1', '2', '.']) = .ok (.error error) ∧
    content (.list elements) = .ok (.error error) ∧
    content (.tuple elements) = .ok (.error error) := by
  intro content elements error
  have elementwise : ∀ name, (binaryToPoint name).Everywhere IsElementwise :=
    fun _ => ⟨trivial, trivial, trivial, ⟨trivial, trivial⟩, trivial⟩
  have alike := ends_alike_on_elements elementwise (elementwise ()) .warning
    (.text ['1', '2', '.'])
  have reported : content (.text ['1', '2', '.']) = .ok (.error error) := rfl
  exact ⟨elementwise, elementwise (), reported, alike.1.trans reported, alike.2.trans reported⟩

end Grammar

end OrderedChoice
