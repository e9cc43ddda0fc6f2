import OrderedChoice.Proofs.Parser.Composition
import OrderedChoice.Proofs.Parser.Sequence

/-!
# Where faults come from

No combinator raises a fault.  A parser that ends in one has called a function that raised
it, or one of its parts ends in it.  So the ways in which a run may end without an answer are
those of its parts.
-/

namespace OrderedChoice

namespace Run

variable {α : Type} {allowed : Halt → Prop}

/-- The run returns, or it ends in one of the given ways. -/
def HaltsOnly (allowed : Halt → Prop) (run : Run α) : Prop :=
  ∀ halt, run.outcome = .error halt → allowed halt

theorem isCompositional_haltsOnly (allowed : Halt → Prop) :
    IsCompositional (HaltsOnly allowed) where
  answer _ := by
    intro halt ended
    cases ended
  bind holds nextHolds := by
    intro halt ended
    rcases outcome_bind_eq_error_iff.mp ended with halted | ⟨value, returned, halted⟩
    · exact holds halt halted
    · exact nextHolds value returned halt halted

theorem haltsOnly_exhausted (allowedToExhaust : allowed .exhausted) :
    HaltsOnly allowed (exhausted : Run α) := by
  intro halt ended
  cases ended
  exact allowedToExhaust

theorem haltsOnly_fault {cause : Fault} (allowedToFault : allowed (.fault cause)) :
    HaltsOnly allowed (fault cause : Run α) := by
  intro halt ended
  cases ended
  exact allowedToFault

theorem haltsOnly_ofExcept {callback : Except Fault α}
    (raises : ∀ cause, callback = .error cause → allowed (.fault cause)) :
    HaltsOnly allowed (ofExcept callback) := by
  cases callback with
  | ok value => exact (isCompositional_haltsOnly allowed).answer value
  | error cause => exact haltsOnly_fault (raises cause rfl)

end Run

namespace Parser

variable {α : Type} {cause : Fault} {parser : Parser α}

/-- The parser never ends in the fault. -/
def Avoids (cause : Fault) (parser : Parser α) : Prop :=
  ∀ input, (parser input).outcome ≠ .error (.fault cause)

theorem avoids_iff :
    parser.Avoids cause ↔ ∀ input, Run.HaltsOnly (· ≠ .fault cause) (parser input) := by
  constructor
  · intro avoids input halt ended same
    exact avoids input (same ▸ ended)
  · intro avoids input ended
    exact avoids input _ ended rfl

/-- A pattern has its own faults, and a report is not one of them. -/
theorem avoids_matching (pattern : Pattern) (error : ParseError) (position : Option Position) :
    (matching pattern).Avoids (.parseFailed error position) := by
  intro input
  have matched_ne : ∀ length, (matched pattern input length).outcome ≠
      .error (.fault (.parseFailed error position)) := by
    intro length
    cases length with
    | none => exact nofun
    | some taken => exact nofun
  unfold matching
  split
  · exact matched_ne _
  · exact matched_ne _
  · exact nofun
  · exact nofun
  · exact nofun
  · exact nofun

end Parser

end OrderedChoice
