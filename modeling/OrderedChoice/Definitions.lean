import OrderedChoice.Calculator

/-!
# Named definitions

A grammar may be kept under a name, for others to refer to.  A later definition of a
name replaces the earlier one for everything that looks the name up from then on.
-/

namespace OrderedChoice

/-- What a rule of a defined grammar is called: a name of a definition, or a rule of
the calculator. -/
inductive RuleName where
  | defined (name : String)
  | calculator (rule : Calculator.Rule)
  deriving DecidableEq

/-- The definitions, the latest first. -/
structure Definitions where
  entries : List (String × Grammar RuleName)

namespace Definitions

/-- No definition. -/
def empty : Definitions := ⟨[]⟩

/-- Add a definition. -/
def define (definitions : Definitions) (name : String) (grammar : Grammar RuleName) :
    Definitions :=
  ⟨(name, grammar) :: definitions.entries⟩

/-- The grammar that is now defined under a name. -/
def find? (definitions : Definitions) (name : String) : Except Fault (Grammar RuleName) :=
  match definitions.entries.lookup name with
  | some grammar => return grammar
  | none => throw (.unknownRule name)

/-- The bodies of the rules. -/
def rules (definitions : Definitions) : RuleName → Grammar RuleName
  | .defined name => .ofExcept (definitions.find? name)
  | .calculator rule => (Calculator.rules rule).rename .calculator

/-- The parser of a grammar over the definitions. -/
def parser (definitions : Definitions) (verbosity : Verbosity) (grammar : Grammar RuleName) :
    Parser Value :=
  grammar.parse verbosity definitions.rules

end Definitions

end OrderedChoice
