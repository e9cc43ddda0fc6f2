import OrderedChoice.Proofs.Parser.Composition
import OrderedChoice.Proofs.Parser.Sequence

/-!
# What runs write

Only notes and observed parsers write to the log.  Every run of an observed parser is a call: it
opens with one record and, when it returns, closes with another, and whatever it calls on the
way stands between the two.  So the records of a run that returns are bracketed by its calls,
and a run that does not return leaves open just those calls that it was in.
-/

namespace OrderedChoice

/-- Written by an observed parser, and not by a note. -/
def Record.isOfCall : Record → Bool
  | .passing _ _ _ => false
  | _ => true

/-- A call of an observed parser, known by what it writes when it starts: its label, the
description of what it observes, and its input. -/
structure Call where
  label : String
  subject : String
  input : Stream

namespace Call

/-- What the call writes when it starts. -/
def opening (call : Call) : Record :=
  .trying call.label call.subject (call.input.take Parser.previewLength)

/-- What the call writes when it returns: that it matched, with the value and how much is left,
or that it gave up, with the error. -/
def closing (call : Call) : Result Value → Record
  | .success value rest => .matched call.label value rest.length
  | .failure error => .backtracked call.label error

end Call

/-! ## Brackets -/

/-- The records are those of calls that have all returned.  Each call is opened and closed once,
and between the two stand the records of the calls within it.  `returned` says which calls
there are, by what they write and return. -/
inductive Bracketed (returned : Call → List Record → Result Value → Prop) : List Record → Prop where
  | nothing : Bracketed returned []
  | call {call : Call} {inner later : List Record} {result : Result Value}
      (made : returned call inner result) (within : Bracketed returned inner)
      (after : Bracketed returned later) :
      Bracketed returned (call.opening :: inner ++ call.closing result :: later)

/-- The records are those of calls that have returned, and then of one that has not, within
which it is the same again.  `halted` says which calls do not return, by what they write. -/
inductive Interrupted (returned : Call → List Record → Result Value → Prop)
    (halted : Call → List Record → Prop) : List Record → Prop where
  | outside {records : List Record} (before : Bracketed returned records) :
      Interrupted returned halted records
  | within {call : Call} {earlier inner : List Record} (before : Bracketed returned earlier)
      (made : halted call inner) (within : Interrupted returned halted inner) :
      Interrupted returned halted (earlier ++ call.opening :: inner)

section Brackets

variable {returned other : Call → List Record → Result Value → Prop}
  {halted : Call → List Record → Prop} {records later : List Record}

theorem Bracketed.append (first : Bracketed returned records)
    (second : Bracketed returned later) : Bracketed returned (records ++ later) := by
  induction first with
  | nothing => exact second
  | @call call inner after result made within _ _ following =>
      have regrouped : (call.opening :: inner ++ call.closing result :: after) ++ later =
          call.opening :: inner ++ call.closing result :: (after ++ later) := by
        simp only [List.append_assoc, List.cons_append]
      rw [regrouped]
      exact .call made within following

theorem Bracketed.single {call : Call} {inner : List Record} {result : Result Value}
    (made : returned call inner result) (within : Bracketed returned inner) :
    Bracketed returned (call.opening :: inner ++ [call.closing result]) :=
  .call made within .nothing

theorem Bracketed.mono (weaker : ∀ call inner result, returned call inner result →
      other call inner result) (bracketed : Bracketed returned records) :
    Bracketed other records := by
  induction bracketed with
  | nothing => exact .nothing
  | call made _ _ within after => exact .call (weaker _ _ _ made) within after

theorem Interrupted.prepend (first : Bracketed returned records)
    (second : Interrupted returned halted later) :
    Interrupted returned halted (records ++ later) := by
  cases second with
  | outside before => exact .outside (first.append before)
  | within before made within =>
      rw [← List.append_assoc]
      exact .within (first.append before) made within

end Brackets

/-! ## Open calls -/

section OpenCalls

variable {returned : Call → List Record → Result Value → Prop}
  {halted : Call → List Record → Prop} {records : List Record}

end OpenCalls

/-! ## Runs -/

namespace Run

variable {α β : Type} {returned : Call → List Record → Result Value → Prop}
  {halted : Halt → Call → List Record → Prop}

/-- The run writes nothing to the log. -/
def IsSilent (run : Run α) : Prop := run.log = []

theorem isCompositional_isSilent : IsCompositional IsSilent where
  answer _ := rfl
  bind {α β run next} silent nextSilent := by
    unfold IsSilent at silent nextSilent ⊢
    rw [log_bind]
    cases returned : run.outcome with
    | error halt => exact silent
    | ok value => simp only [silent, nextSilent value returned, List.append_nil]

theorem isSilent_ofExcept (callback : Except Fault α) : IsSilent (ofExcept callback) := by
  cases callback with
  | ok value => rfl
  | error cause => rfl

/-- What observed parsers have written in the run. -/
def records (run : Run α) : List Record := run.log.filter Record.isOfCall

end Run

/-! ## Parsers that write -/

namespace Parser

variable {label subject : String} {parser : Parser Value} {input : Stream}
  {returned : Call → List Record → Result Value → Prop}
  {halted : Halt → Call → List Record → Prop}

/-- A pattern writes nothing, whether it is found or not. -/
theorem isSilent_matching (pattern : Pattern) (input : Stream) :
    (matching pattern input).IsSilent := by
  have matchedSilent : ∀ length, (matched pattern input length).IsSilent := by
    intro length
    cases length with
    | none => rfl
    | some taken => rfl
  unfold matching
  split
  · exact matchedSilent _
  · exact matchedSilent _
  · rfl
  · rfl
  · rfl
  · rfl

/-- Where no records are kept, an observed parser writes what its parser writes. -/
theorem log_observed_warning :
    (observed .warning label subject parser input).log = (parser input).log := by
  unfold observed
  rw [Run.log_bind]
  change [] ++ (parser input >>= _).log = _
  rw [List.nil_append, Run.log_bind_of_silent]
  intro result
  cases result with
  | success value rest => rfl
  | failure error => rfl

end Parser

end OrderedChoice
