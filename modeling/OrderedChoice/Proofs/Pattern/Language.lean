import OrderedChoice.Pattern.Matching

/-!
# The language of a pattern

Which parts of a text a pattern describes, said without a search.  An anchor asks what stands
around a part, so a language holds a part in its place, between the text in front of it and the
text behind it.  A repetition holds as many parts in a row as its bounds allow, empty ones
included, and it does not matter here which of them are preferred.
-/

namespace OrderedChoice

namespace Pattern

/-- Parts of texts, each between what stands in front of it and behind it. -/
abbrev Language : Type := (before taken after : List Char) → Prop

namespace Language

variable {language other third : Language} {before taken after : List Char}

/-- The empty part, at places for which the condition holds. -/
def place (condition : (before after : List Char) → Prop) : Language :=
  fun before taken after => taken = [] ∧ condition before after

/-- The empty part, anywhere. -/
def empty : Language := place fun _ _ => True

/-- A part of the first language with a part of the second behind it. -/
def concatenation (language other : Language) : Language :=
  fun before taken after => ∃ first second, taken = first ++ second ∧
    language before first (second ++ after) ∧ other (before ++ first) second after

/-- As many parts in a row as are counted. -/
def power (language : Language) : Nat → Language
  | 0 => empty
  | count + 1 => language.concatenation (language.power count)

/-- As many parts in a row as the bounds allow. -/
def repeated (language : Language) (least : Nat) (most : Option Nat) : Language :=
  fun before taken after => ∃ count, least ≤ count ∧ (∀ bound ∈ most, count ≤ bound) ∧
    language.power count before taken after

/-! ## Parts in a row -/

/-- No part at all is a row within every budget. -/
theorem repeated_none (budget : Option Nat) (before after : List Char) :
    language.repeated 0 budget before [] after :=
  ⟨0, Nat.zero_le _, fun bound _ => Nat.zero_le bound, rfl, trivial⟩

/-- One more part in front of a row, within a budget that is not used up. -/
theorem repeated_more {budget : Option Nat} {first others : List Char} (room : budget ≠ some 0)
    (inLanguage : language before first (others ++ after))
    (row : language.repeated 0 (budget.map (· - 1)) (before ++ first) others after) :
    language.repeated 0 budget before (first ++ others) after := by
  rcases row with ⟨count, _, within, row⟩
  refine ⟨count + 1, Nat.zero_le _, ?_, first, others, rfl, inLanguage, row⟩
  intro bound member
  have left : count ≤ bound - 1 := within _ (Option.mem_map_of_mem _ member)
  have some : bound ≠ 0 := fun zero => room (zero ▸ member)
  omega

end Language

/-! ## Patterns -/

/-- The parts that a pattern describes.  The start of a text is where nothing stands in front,
and its end where nothing stands behind but perhaps one last line break.  Where lines count, the
break of any line marks the end of one and the start of the next. -/
def Node.language (alphabet : Alphabet) (flags : Flags) : Node → Language
  | .nothing => .empty
  | .character set => fun _ taken _ =>
      ∃ character, set.contains alphabet flags character = true ∧ taken = [character]
  | .start => .place fun before _ =>
      before = [] ∨ flags.multiline = true ∧ before.getLast? = some '\n'
  | .finish => .place fun _ after =>
      after = [] ∨ after = ['\n'] ∨ flags.multiline = true ∧ after.head? = some '\n'
  | .sequence first second =>
      (first.language alphabet flags).concatenation (second.language alphabet flags)
  | .either first second => fun before taken after =>
      first.language alphabet flags before taken after ∨
        second.language alphabet flags before taken after
  | .repetition body least most _ => (body.language alphabet flags).repeated least most

/-- No repetition needs more iterations than it allows. -/
def Node.IsOrdered : Node → Prop
  | .sequence first second | .either first second => first.IsOrdered ∧ second.IsOrdered
  | .repetition body least most _ => (∀ bound ∈ most, least ≤ bound) ∧ body.IsOrdered
  | _ => True

end Pattern

end OrderedChoice
