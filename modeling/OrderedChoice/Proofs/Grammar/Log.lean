import OrderedChoice.Proofs.Grammar.Composition
import OrderedChoice.Proofs.Parser.Log
import OrderedChoice.Scanner.Number

/-!
# What grammars write

A grammar writes to the log through its notes and observed parts only.  The records of its
observed parts are those of calls, and these are bracketed like the calls themselves, however
often the run comes back to a place: in alternatives that are given up, in repetitions that
stop, behind predicates and in rules that are entered again.
-/

namespace OrderedChoice

namespace Grammar

variable {ν : Type} {property : ∀ {α : Type}, Run α → Prop} {region : Stream → Prop}
  {verbosity : Verbosity} {rounds : Nat} {grammar part : Grammar ν}

/-- The parts that write to the log, or may do so. -/
def MayWrite : Grammar ν → Prop
  | .note _ | .observed _ _ | .custom _ _ => True
  | _ => False

/-- Every other part upholds what holds of all silent runs. -/
theorem upholds_of_silent {rules : ν → Parser Value}
    (holds : ∀ {α : Type} {run : Run α}, run.IsSilent → property run)
    (silent : ¬ part.MayWrite) : part.Upholds property region verbosity rules rounds := by
  cases part with
  | token => exact fun _ _ _ _ => holds (Run.isSilent_ofExcept _)
  | map | filter => exact fun _ _ _ _ _ => holds (Run.isSilent_ofExcept _)
  | chainLeftBy | chainRightBy => exact fun _ _ _ => holds (Run.isSilent_ofExcept _)
  | matching pattern => exact fun input _ => holds (Parser.isSilent_matching pattern input)
  | fault cause => exact holds rfl
  | note | observed | custom => exact absurd trivial silent
  | _ => trivial

/-! ## Writing nothing -/

/-- Notes and observed parts are not kept, and a parser from outside writes nothing. -/
def IsSilent (verbosity : Verbosity) : Grammar ν → Prop
  | .note _ | .observed _ _ => verbosity = .warning
  | .custom _ parser => ∀ input, (parser input).IsSilent
  | _ => True

theorem upholds_of_isSilent {rules : ν → Parser Value} (silent : part.IsSilent verbosity) :
    part.Upholds Run.IsSilent (fun _ => True) verbosity rules rounds := by
  cases part with
  | note label =>
      cases silent
      exact fun _ _ => rfl
  | observed label body =>
      cases silent
      exact fun _ _ bodySilent => Parser.log_observed_warning.trans bodySilent
  | custom name parser => exact fun input _ => silent input
  | _ => exact upholds_of_silent id id

/-- A grammar writes nothing where no records are kept, and nothing without notes and observed
parts, unless a parser from outside does. -/
theorem log_eq_nil_of_isSilent {rules : ν → Grammar ν}
    (rulesSilent : ∀ name, (rules name).Everywhere (IsSilent verbosity))
    (silent : grammar.Everywhere (IsSilent verbosity)) (bound : Nat) (input : Stream) :
    (grammar.parserWithin bound verbosity rules input).log = [] := by
  refine holds_of_upholds_everywhere Run.isCompositional_isSilent rfl ?_ ?_ input
  · intro depth name
    exact (rulesSilent name).mono fun _ => upholds_of_isSilent
  · exact silent.mono fun _ => upholds_of_isSilent

/-! ## Calls of a grammar -/

/-- The call is one of an observed part of the grammar or of its rules, and this is the run of
what is observed on the input of the call. -/
def Calls (bound : Nat) (rules : ν → Grammar ν) (grammar : Grammar ν) (call : Call)
    (run : Run (Result Value)) : Prop :=
  ∃ body depth, (IsPart (.observed call.label body) grammar ∨
      ∃ name, IsPart (.observed call.label body) (rules name)) ∧
    call.subject = body.describe ∧
    run = body.parser .debug (ruleParser .debug rules bound depth) bound call.input

/-- The grammar makes the call; what is called writes these records and returns this result. -/
def Returned (bound : Nat) (rules : ν → Grammar ν) (grammar : Grammar ν) (call : Call)
    (inner : List Record) (result : Result Value) : Prop :=
  ∃ run, grammar.Calls bound rules call run ∧ run.records = inner ∧ run.outcome = .ok result

section Brackets

variable {rules : ν → Grammar ν}

/-- What a composed grammar calls leaves no more than it is given. -/
theorem Returned.length_le {bound : Nat} {call : Call} {inner : List Record} {value : Value}
    {rest : Stream} (rulesComposed : ∀ name, (rules name).Everywhere IsComposed)
    (composed : grammar.Everywhere IsComposed)
    (returned : grammar.Returned bound rules call inner (.success value rest)) :
    rest.length ≤ call.input.length := by
  rcases returned with ⟨run, ⟨body, depth, isPart, _, rfl⟩, _, ended⟩
  have bodyComposed : body.Everywhere IsComposed := by
    rcases isPart with isPart | ⟨name, isPart⟩
    · exact (isPart _ composed.nested).2
    · exact (isPart _ (rulesComposed name).nested).2
  have isRegion := Stream.isRegion_rests call.input
  have kept := keeps_of_composed bodyComposed (keeps_ruleParser rulesComposed isRegion depth)
    isRegion call.input (.refl call.input) value rest ended
  exact kept.length_le

end Brackets

end Grammar

end OrderedChoice
