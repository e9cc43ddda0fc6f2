import OrderedChoice.Parser.Basic

/-!
# Operator chains

A chain is a term followed by any number of operators, each with a term behind it.
It ends where no operator follows, and an operator without a term behind it makes
the whole chain fail.  Chains do not insist that a round shortens the input, so the
number of rounds is bounded from outside.
-/

namespace OrderedChoice

namespace Parser

variable {α ω : Type}

/-- The rounds of a chain that groups to the left.  Every operator is applied as soon
as its right operand is read. -/
def chainLeftFrom (apply : ω → α → α → Except Fault α) (term : Parser α)
    (operator : Parser ω) :
    (rounds : Nat) → (accumulated : α) → (input : Stream) → Run (Result α)
  | 0, _, _ => .exhausted
  | rounds + 1, accumulated, input => do
      match ← operator input with
      | .failure _ => accept accumulated input
      | .success operation afterOperator =>
          match ← term afterOperator with
          | .failure error => reject error
          | .success operand rest => do
              let combined ← Run.ofExcept (apply operation accumulated operand)
              chainLeftFrom apply term operator rounds combined rest

/-- A chain that groups to the left. -/
def chainLeft (rounds : Nat) (apply : ω → α → α → Except Fault α) (term : Parser α)
    (operator : Parser ω) : Parser α :=
  term.onSuccess (chainLeftFrom apply term operator rounds)

/-- The operators and right operands of a chain. -/
def links (term : Parser α) (operator : Parser ω) :
    (rounds : Nat) → (input : Stream) → Run (Result (List (ω × α)))
  | 0, _ => .exhausted
  | rounds + 1, input => do
      match ← operator input with
      | .failure _ => accept [] input
      | .success operation afterOperator =>
          match ← term afterOperator with
          | .failure error => reject error
          | .success operand rest =>
              match ← links term operator rounds rest with
              | .failure error => reject error
              | .success more final => accept ((operation, operand) :: more) final

/-- Apply the operators of a chain from its last operand back to its first. -/
def foldLinks (apply : ω → α → α → Except Fault α) :
    (first : α) → List (ω × α) → Except Fault α
  | first, [] => return first
  | first, (operation, operand) :: more => do
      apply operation first (← foldLinks apply operand more)

/-- A chain that groups to the right.  No operator is applied before the last term
is read. -/
def chainRight (rounds : Nat) (apply : ω → α → α → Except Fault α) (term : Parser α)
    (operator : Parser ω) : Parser α :=
  term.onSuccess fun first =>
    onSuccess (links term operator rounds) fun more rest => do
      accept (← Run.ofExcept (foldLinks apply first more)) rest

end Parser

end OrderedChoice
