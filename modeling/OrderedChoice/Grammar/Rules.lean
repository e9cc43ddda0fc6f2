import OrderedChoice.Grammar.Basic

/-!
# Running grammars

The rules of a grammar may refer to each other and to themselves.  The depth to which
rules are entered and the rounds of a chain are bounded by one number, and a run that
reaches the bound is exhausted.
-/

namespace OrderedChoice

namespace Grammar

variable {ν : Type}

/-- The parser of a rule, when rules may be entered to the given depth. -/
def ruleParser (verbosity : Verbosity) (rules : ν → Grammar ν) (rounds : Nat) :
    (depth : Nat) → ν → Parser Value
  | 0, _ => fun _ => .exhausted
  | depth + 1, name =>
      (rules name).parser verbosity (ruleParser verbosity rules rounds depth) rounds

/-- The parser of a grammar together with its rules, within a bound. -/
def parserWithin (bound : Nat) (verbosity : Verbosity) (rules : ν → Grammar ν)
    (grammar : Grammar ν) : Parser Value :=
  grammar.parser verbosity (ruleParser verbosity rules bound bound) bound

/-- A bound that leaves ample room for every element of the input.  A grammar with
fewer rules than that, which moves on before it comes back to a rule, never gets
near it. -/
def ampleBound (input : Stream) : Nat := Nat.pow 2 40 * (input.length + 1)

theorem length_lt_ampleBound (input : Stream) : input.length < ampleBound input := by
  have positive : 0 < Nat.pow 2 40 := Nat.pow_pos (by decide)
  exact Nat.lt_of_lt_of_le (Nat.lt_succ_self _) (Nat.le_mul_of_pos_left _ positive)

/-- Parse an input by a grammar. -/
def parse (verbosity : Verbosity) (rules : ν → Grammar ν) (grammar : Grammar ν) :
    Parser Value :=
  fun input => grammar.parserWithin (ampleBound input) verbosity rules input

end Grammar

end OrderedChoice
