import OrderedChoice.Grammar.Rules
import OrderedChoice.Proofs.Grammar.Parts
import OrderedChoice.Proofs.Stream.Prefix
import OrderedChoice.Proofs.Stream.Rest

/-!
# Parsing expressions

Parsing expression grammars, with their meaning as a relation between an expression, an
input and an outcome.  The relation does not know of parsers: it has no values and no
errors, no bound and no loop.  It is the usual one but for repetitions, which here refuse a
body that matches nothing.
-/

namespace OrderedChoice

/-- A parsing expression over nonterminals named by `ν`. -/
inductive ParsingExpression (ν : Type) where
  | element (test : Value → Except Fault Bool)
  | literal (content : Stream)
  | endOfInput
  | sequence (first second : ParsingExpression ν)
  | choice (first second : ParsingExpression ν)
  | star (body : ParsingExpression ν)
  | plus (body : ParsingExpression ν)
  | optional (body : ParsingExpression ν)
  | followedBy (body : ParsingExpression ν)
  | notFollowedBy (body : ParsingExpression ν)
  | nonterminal (name : ν)

namespace ParsingExpression

variable {ν : Type}

/-- The grammar that an expression is written as.  Labels are the usual ones, as they show
in errors only. -/
def toGrammar : ParsingExpression ν → Grammar ν
  | .element test => .satisfy test (.text "token") Value.shown
  | .literal content => .tokens content (.text content.toValue.shown) Value.shown
  | .endOfInput => .endOfInput
  | .sequence first second => .both first.toGrammar second.toGrammar
  | .choice first second => .orElse first.toGrammar second.toGrammar
  | .star body => body.toGrammar.many
  | .plus body => body.toGrammar.atLeastOnce
  | .optional body => body.toGrammar.optional
  | .followedBy body => .lookAhead body.toGrammar
  | .notFollowedBy body => .notFollowedBy body.toGrammar
  | .nonterminal name => .rule name

/-- What an expression does at the front of an input: it matches some elements or fails. -/
inductive Outcome where
  | matched (length : Nat)
  | failed

namespace Outcome

/-- The outcome of a whole whose earlier part has matched some elements. -/
def after (earlier : Nat) : Outcome → Outcome
  | .matched length => .matched (earlier + length)
  | .failed => .failed

/-- No more is matched than there is. -/
def FitsIn (size : Nat) : Outcome → Prop
  | .matched length => length ≤ size
  | .failed => True

theorem FitsIn.after {outcome : Outcome} {earlier size : Nat} (inside : earlier ≤ size)
    (fits : outcome.FitsIn (size - earlier)) : (outcome.after earlier).FitsIn size := by
  cases outcome with
  | failed => trivial
  | matched length =>
      change length ≤ size - earlier at fits
      change earlier + length ≤ size
      omega

end Outcome

/-- The outcomes of expressions.  A star stops where its body fails.  By the one rule that
is not the usual one, `starEmpty`, it fails where its body matches nothing; this is how a
star can fail at all, so that `starNext` and `plusNext` have a failure to pass on. -/
inductive Derives (rules : ν → ParsingExpression ν) :
    ParsingExpression ν → Stream → Outcome → Prop where
  | element {test : Value → Except Fault Bool} {input : Stream} {value : Value}
      (head : input.head? = some value) (passed : test value = .ok true) :
      Derives rules (.element test) input (.matched 1)
  | elementRefused {test : Value → Except Fault Bool} {input : Stream} {value : Value}
      (head : input.head? = some value) (refused : test value = .ok false) :
      Derives rules (.element test) input .failed
  | elementMissing {test : Value → Except Fault Bool} {input : Stream}
      (ended : input.head? = none) : Derives rules (.element test) input .failed
  | literal {content input : Stream} (begins : input.BeginsWith content) :
      Derives rules (.literal content) input (.matched content.length)
  | literalMissing {content input : Stream} (differs : ¬ input.BeginsWith content) :
      Derives rules (.literal content) input .failed
  | endOfInput {input : Stream} (ended : input.head? = none) :
      Derives rules .endOfInput input (.matched 0)
  | endOfInputMissed {input : Stream} {value : Value} (head : input.head? = some value) :
      Derives rules .endOfInput input .failed
  | sequence {first second : ParsingExpression ν} {input : Stream} {length : Nat}
      {outcome : Outcome} (started : Derives rules first input (.matched length))
      (followed : Derives rules second (input.drop length) outcome) :
      Derives rules (.sequence first second) input (outcome.after length)
  | sequenceFailed {first second : ParsingExpression ν} {input : Stream}
      (failure : Derives rules first input .failed) :
      Derives rules (.sequence first second) input .failed
  | choice {first second : ParsingExpression ν} {input : Stream} {length : Nat}
      (success : Derives rules first input (.matched length)) :
      Derives rules (.choice first second) input (.matched length)
  | choiceNext {first second : ParsingExpression ν} {input : Stream} {outcome : Outcome}
      (failure : Derives rules first input .failed)
      (followed : Derives rules second input outcome) :
      Derives rules (.choice first second) input outcome
  | starStop {body : ParsingExpression ν} {input : Stream}
      (failure : Derives rules body input .failed) :
      Derives rules (.star body) input (.matched 0)
  | starNext {body : ParsingExpression ν} {input : Stream} {length : Nat} {outcome : Outcome}
      (started : Derives rules body input (.matched length))
      (followed : Derives rules (.star body) (input.drop length) outcome) :
      Derives rules (.star body) input (outcome.after length)
  | starEmpty {body : ParsingExpression ν} {input : Stream}
      (nothing : Derives rules body input (.matched 0)) :
      Derives rules (.star body) input .failed
  | plusNext {body : ParsingExpression ν} {input : Stream} {length : Nat} {outcome : Outcome}
      (started : Derives rules body input (.matched length))
      (followed : Derives rules (.star body) (input.drop length) outcome) :
      Derives rules (.plus body) input (outcome.after length)
  | plusFailed {body : ParsingExpression ν} {input : Stream}
      (failure : Derives rules body input .failed) : Derives rules (.plus body) input .failed
  | optional {body : ParsingExpression ν} {input : Stream} {length : Nat}
      (success : Derives rules body input (.matched length)) :
      Derives rules (.optional body) input (.matched length)
  | optionalAbsent {body : ParsingExpression ν} {input : Stream}
      (failure : Derives rules body input .failed) :
      Derives rules (.optional body) input (.matched 0)
  | followedBy {body : ParsingExpression ν} {input : Stream} {length : Nat}
      (success : Derives rules body input (.matched length)) :
      Derives rules (.followedBy body) input (.matched 0)
  | followedByFailed {body : ParsingExpression ν} {input : Stream}
      (failure : Derives rules body input .failed) :
      Derives rules (.followedBy body) input .failed
  | notFollowedBy {body : ParsingExpression ν} {input : Stream}
      (failure : Derives rules body input .failed) :
      Derives rules (.notFollowedBy body) input (.matched 0)
  | notFollowedByFailed {body : ParsingExpression ν} {input : Stream} {length : Nat}
      (success : Derives rules body input (.matched length)) :
      Derives rules (.notFollowedBy body) input .failed
  | nonterminal {name : ν} {input : Stream} {outcome : Outcome}
      (derived : Derives rules (rules name) input outcome) :
      Derives rules (.nonterminal name) input outcome

theorem Derives.fits {rules : ν → ParsingExpression ν} {expression : ParsingExpression ν}
    {input : Stream} {outcome : Outcome} (derived : Derives rules expression input outcome) :
    outcome.FitsIn input.length := by
  induction derived with
  | element head passed =>
      rw [Stream.head?_eq] at head
      rw [← Stream.length_toList]
      exact List.length_pos_of_mem (List.mem_of_mem_head? head)
  | literal begins =>
      have same := begins.length_eq
      rw [List.length_take, Stream.length_toList, Stream.length_toList] at same
      change _ ≤ _
      omega
  | sequence started followed startedFits followedFits =>
      rw [Stream.length_drop] at followedFits
      exact followedFits.after startedFits
  | starNext started followed startedFits followedFits =>
      rw [Stream.length_drop] at followedFits
      exact followedFits.after startedFits
  | plusNext started followed startedFits followedFits =>
      rw [Stream.length_drop] at followedFits
      exact followedFits.after startedFits
  | choice success fits => exact fits
  | choiceNext failure followed _ fits => exact fits
  | optional success fits => exact fits
  | nonterminal derived fits => exact fits
  | _ => first | exact Nat.zero_le _ | trivial

/-- Expressions hold no parser from outside. -/
theorem toGrammar_composed (expression : ParsingExpression ν) :
    expression.toGrammar.Everywhere Grammar.IsComposed := by
  induction expression with
  | element | literal | endOfInput | nonterminal => trivial
  | star body composed => exact ⟨trivial, composed⟩
  | plus body composed => exact ⟨trivial, composed⟩
  | optional body composed => exact ⟨trivial, composed, trivial⟩
  | followedBy body composed => exact ⟨trivial, composed⟩
  | notFollowedBy body composed => exact ⟨trivial, composed⟩
  | sequence first second composed secondComposed => exact ⟨trivial, composed, secondComposed⟩
  | choice first second composed secondComposed => exact ⟨trivial, composed, secondComposed⟩

end ParsingExpression

end OrderedChoice
