import OrderedChoice.Grammar.Rules
import OrderedChoice.Proofs.Grammar.Parts
import OrderedChoice.Proofs.Parser.Region
import OrderedChoice.Scanner.Number

/-!
# What a grammar leaves of its input

A grammar that holds no parser from outside leaves a rest of its input wherever it
succeeds: the input without some of its first elements, in the kind of the input.  The
argument goes through the parts of the grammar, and through the depth to which its rules
are entered.
-/

namespace OrderedChoice

namespace Grammar

variable {ν : Type} {region : Stream → Prop} {verbosity : Verbosity} {rounds : Nat}
  {rules : ν → Grammar ν} {grammar : Grammar ν}

/-- Only a parser from outside is asked to keep the region: any other part does so by itself. -/
def KeepsRegion (region : Stream → Prop) : Grammar ν → Prop
  | .custom _ parser => parser.Keeps region
  | _ => True

theorem keeps_of_parts {rules : ν → Parser Value} (kept : grammar.Everywhere (KeepsRegion region))
    (rulesKeep : ∀ name, (rules name).Keeps region) (isRegion : Stream.IsRegion region) :
    (grammar.parser verbosity rules rounds).Keeps region := by
  induction grammar with
  | pure value => exact Parser.keeps_pure value
  | fail content => exact Parser.keeps_fail content
  | endOfInput => exact Parser.keeps_endOfInput.map _
  | token select expected display => exact Parser.keeps_token isRegion select expected display
  | tokens literal expected display => exact Parser.keeps_tokens isRegion literal expected display
  | matching pattern => exact Parser.keeps_matching isRegion pattern
  | rule name => exact rulesKeep name
  | named name body bodyKeeps => exact bodyKeeps kept.2
  | map f body bodyKeeps => exact (bodyKeeps kept.2).mapM f
  | filter check body bodyKeeps => exact (bodyKeeps kept.2).filter check
  | bind first next firstKeeps nextKeeps =>
      exact (firstKeeps kept.2.1).bind fun value => nextKeeps value (kept.2.2 value)
  | both first second firstKeeps secondKeeps =>
      exact ((firstKeeps kept.2.1).both (secondKeeps kept.2.2)).map _
  | seqRight first second firstKeeps secondKeeps =>
      exact (firstKeeps kept.2.1).seqRight (secondKeeps kept.2.2)
  | seqLeft first second firstKeeps secondKeeps =>
      exact (firstKeeps kept.2.1).seqLeft (secondKeeps kept.2.2)
  | orElse first second firstKeeps secondKeeps =>
      exact (firstKeeps kept.2.1).orElse (secondKeeps kept.2.2)
  | exactly count body bodyKeeps => exact ((bodyKeeps kept.2).exactly count).map _
  | repeated least combinator body bodyKeeps =>
      exact Parser.Keeps.map ((bodyKeeps kept.2).repeated least combinator) _
  | chainLeftBy apply term operator termKeeps operatorKeeps =>
      exact (termKeeps kept.2.1).chainLeft (operatorKeeps kept.2.2) rounds apply
  | chainRightBy apply term operator termKeeps operatorKeeps =>
      exact (termKeeps kept.2.1).chainRight (operatorKeeps kept.2.2) rounds apply
  | lookAhead body => exact Parser.Keeps.lookAhead _
  | notFollowedBy body => exact (Parser.Keeps.notFollowedBy _ _).map _
  | note label => exact (Parser.keeps_note verbosity label).map _
  | observed label body bodyKeeps => exact (bodyKeeps kept.2).observed verbosity label _
  | fault cause => exact Parser.keeps_fault cause
  | custom name parser => exact kept

theorem keeps_ruleParser_of_parts (kept : ∀ name, (rules name).Everywhere (KeepsRegion region))
    (isRegion : Stream.IsRegion region) (depth : Nat) (name : ν) :
    (ruleParser verbosity rules rounds depth name).Keeps region := by
  induction depth generalizing name with
  | zero =>
      intro input _ value rest success
      cases success
  | succ depth shallower => exact keeps_of_parts (kept name) shallower isRegion

/-! ## Composed grammars -/

theorem keepsRegion_of_composed (composed : grammar.Everywhere IsComposed) :
    grammar.Everywhere (KeepsRegion region) := by
  refine composed.mono ?_
  intro part partComposed
  cases part with
  | custom => exact absurd partComposed id
  | _ => trivial

/-- A composed grammar keeps every region that the parsers of its rules keep. -/
theorem keeps_of_composed {rules : ν → Parser Value} (composed : grammar.Everywhere IsComposed)
    (rulesKeep : ∀ name, (rules name).Keeps region) (isRegion : Stream.IsRegion region) :
    (grammar.parser verbosity rules rounds).Keeps region :=
  keeps_of_parts (keepsRegion_of_composed composed) rulesKeep isRegion

theorem keeps_ruleParser (composed : ∀ name, (rules name).Everywhere IsComposed)
    (isRegion : Stream.IsRegion region) (depth : Nat) (name : ν) :
    (ruleParser verbosity rules rounds depth name).Keeps region :=
  keeps_ruleParser_of_parts (fun name => keepsRegion_of_composed (composed name)) isRegion depth
    name

theorem keeps_parserWithin (rulesComposed : ∀ name, (rules name).Everywhere IsComposed)
    (composed : grammar.Everywhere IsComposed) (isRegion : Stream.IsRegion region)
    (bound : Nat) : (grammar.parserWithin bound verbosity rules).Keeps region :=
  keeps_of_composed composed (keeps_ruleParser rulesComposed isRegion bound) isRegion

/-- Whatever a composed grammar leaves is its input without some of its first elements. -/
theorem leaves_rest_of_input (rulesComposed : ∀ name, (rules name).Everywhere IsComposed)
    (composed : grammar.Everywhere IsComposed) (bound : Nat) (verbosity : Verbosity)
    {input rest : Stream} {value : Value}
    (success : (grammar.parserWithin bound verbosity rules).Succeeds input value rest) :
    ∃ count, count ≤ input.length ∧ rest = input.drop count :=
  keeps_parserWithin rulesComposed composed (Stream.isRegion_rests input) bound input
    (Stream.IsRest.refl input) value rest success

/-- Pieces of text, each behind the digit that says how long it is. -/
def pieces : Unit → Grammar Unit := fun _ =>
  ((Scanner.digit.bind fun
    | .int length => Scanner.textOfLength length.toNat
    | _ => .fail "length").both (.rule ())).optional

theorem leaves_rest_of_pieces :
    (∀ name, (pieces name).Everywhere IsComposed) ∧ (pieces ()).Everywhere IsComposed ∧
      ∃ value,
        ((pieces ()).parserWithin 5 .warning pieces).Succeeds
          (.text ['2', 'a', 'b', '1', 'c', 'd']) value (.text ['d']) ∧
        ∃ count, count ≤ 6 ∧
          Stream.text ['d'] = (Stream.text ['2', 'a', 'b', '1', 'c', 'd']).drop count := by
  have composed : ∀ name, (pieces name).Everywhere IsComposed := by
    intro name
    refine ⟨trivial, ⟨trivial, ⟨trivial, trivial, ?_⟩, trivial⟩, trivial⟩
    intro value
    cases value with
    | int length => exact ⟨trivial, trivial, trivial⟩
    | _ => trivial
  have success : ∃ value, ((pieces ()).parserWithin 5 .warning pieces).Succeeds
      (.text ['2', 'a', 'b', '1', 'c', 'd']) value (.text ['d']) := ⟨_, rfl⟩
  rcases success with ⟨value, success⟩
  exact ⟨composed, composed (), value, success,
    leaves_rest_of_input composed (composed ()) 5 .warning success⟩

end Grammar

end OrderedChoice
