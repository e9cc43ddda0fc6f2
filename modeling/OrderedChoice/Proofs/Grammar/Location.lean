import OrderedChoice.Proofs.Grammar.Report
import OrderedChoice.Proofs.Parser.Whole

/-!
# Where errors are located

An error of this library says how much input was left where it arose.  That number never
exceeds the length of the input of the parse that reports the error, so it belongs to a
place in this input.  A check may make an error of any kind, but as long as it leaves the
place open, the place is filled in with the start of what was checked.
-/

namespace OrderedChoice

/-- The error has a place, and no more than so many elements were left there. -/
def ParseError.StandsWithin (limit : Nat) (error : ParseError) : Prop :=
  ∃ remaining : Nat, remaining ≤ limit ∧ error.remaining = some (remaining : Int)

theorem ParseError.remaining_located {error : ParseError} (lacks : error.lacksLocation = true)
    (length : Int) : (error.located length).remaining = some length := by
  cases error with
  | unexpected _ _ remaining | message _ remaining | zeroWidth _ remaining | placed _ remaining =>
      cases remaining with
      | none => rfl
      | some remaining => cases lacks
  | bare | unplaced => cases lacks

/-- The position of an error is that of an offset in the input. -/
theorem ParseError.StandsWithin.position {error : ParseError} {input : Stream}
    (stands : error.StandsWithin input.length) (name : String) :
    ∃ offset, offset ≤ input.length ∧
      error.remaining = some ((input.length - offset : Nat) : Int) ∧
      error.position? input name = some (.ofOffset input offset name) := by
  rcases stands with ⟨remaining, within, located⟩
  have back : input.length - (input.length - remaining) = remaining := by omega
  have offset : (input.length : Int) - remaining = (input.length - remaining : Nat) := by omega
  refine ⟨input.length - remaining, Nat.sub_le _ _, ?_, ?_⟩
  · rw [back, located]
  · rw [ParseError.position?, located, Option.map_some, offset]

namespace Grammar

variable {ν : Type} {verbosity : Verbosity} {rules : ν → Grammar ν} {grammar : Grammar ν}
  {limit : Nat}

/-- A part of a composed grammar whose check, if it has one, rejects only with errors that
can be located and are not located yet. -/
def LeavesPlace : Grammar ν → Prop
  | .filter check _ => ∀ value error, check value = .ok (some error) → error.lacksLocation = true
  | .custom _ _ => False
  | _ => True

/-- Streams of bounded length form a region, on which a parser can only make errors that
stand within the bound. -/
theorem isRegion_short (limit : Nat) :
    Stream.IsRegion fun stream => stream.length ≤ limit := by
  intro stream short count
  rw [Stream.length_drop]
  exact Nat.le_trans (Nat.sub_le _ _) short

theorem MakesOnly.of_leavesPlace {part : Grammar ν} (leaves : part.LeavesPlace) :
    part.MakesOnly (fun stream => stream.length ≤ limit) (ParseError.StandsWithin limit) := by
  cases part with
  | fail content =>
      intro input short error failure
      rw [Parser.fails_fail_iff.mp failure]
      exact ⟨input.length, short, rfl⟩
  | endOfInput =>
      intro input short error failure
      rcases Parser.fails_endOfInput_iff.mp failure with ⟨_, _, rfl⟩
      exact ⟨input.length, short, rfl⟩
  | token select expected display =>
      intro input short error failure
      rcases Parser.fails_token_iff.mp failure with ⟨_, rfl⟩ | ⟨_, _, _, rfl⟩
      · exact ⟨0, Nat.zero_le _, rfl⟩
      · exact ⟨input.length, short, rfl⟩
  | tokens literal expected display =>
      intro input short error failure
      rcases Parser.fails_tokens_iff.mp failure with ⟨_, rfl⟩
      exact ⟨input.length, short, rfl⟩
  | matching pattern =>
      intro input short error failure
      rw [failure.report_of_matching]
      exact ⟨input.length, short, rfl⟩
  | filter check body =>
      intro input short value _ error rejected
      exact ⟨input.length, short, error.remaining_located (leaves value error rejected) _⟩
  | repeated least combinator body =>
      intro input short
      exact ⟨input.length, short, rfl⟩
  | notFollowedBy body =>
      intro input short value
      exact ⟨input.length, short, rfl⟩
  | custom => exact leaves
  | _ => trivial

/-- On inputs of bounded length, whatever a grammar reports stands within the bound. -/
theorem reports_within (rulesLeave : ∀ name, (rules name).Everywhere LeavesPlace)
    (leaves : grammar.Everywhere LeavesPlace) (bound limit : Nat) :
    (grammar.parserWithin bound verbosity rules).Reports (fun stream => stream.length ≤ limit)
      (ParseError.StandsWithin limit) := by
  refine reports_parserWithin ?_ ?_ (isRegion_short limit) bound
  · intro name
    exact (rulesLeave name).mono fun _ => MakesOnly.of_leavesPlace
  · exact leaves.mono fun _ => MakesOnly.of_leavesPlace

theorem IsComposed.of_leavesPlace {part : Grammar ν} (leaves : part.LeavesPlace) :
    part.IsComposed := by
  cases part with
  | custom => exact leaves
  | _ => trivial

theorem keeps_within (rulesLeave : ∀ name, (rules name).Everywhere LeavesPlace)
    (leaves : grammar.Everywhere LeavesPlace) (bound limit : Nat) :
    (grammar.parserWithin bound verbosity rules).Keeps fun stream => stream.length ≤ limit := by
  refine keeps_parserWithin ?_ ?_ (isRegion_short limit) bound
  · intro name
    exact (rulesLeave name).mono fun _ => IsComposed.of_leavesPlace
  · exact leaves.mono fun _ => IsComposed.of_leavesPlace

/-- Parsing an input by a grammar is parsing it within the bound for this input. -/
theorem parse_apply (verbosity : Verbosity) (rules : ν → Grammar ν) (grammar : Grammar ν)
    (input : Stream) :
    grammar.parse verbosity rules input =
      grammar.parserWithin (ampleBound input) verbosity rules input := rfl

theorem parseAll_parse (verbosity : Verbosity) (rules : ν → Grammar ν) (grammar : Grammar ν)
    (input : Stream) (name : String) :
    (grammar.parse verbosity rules).parseAll input name =
      (grammar.parserWithin (ampleBound input) verbosity rules).parseAll input name := by
  unfold Parser.parseAll
  rw [parse_apply]

/-- A report about a whole input has the position of an offset in it, unless the run of the
parser has ended in this very report, and then one of the callbacks has raised it. -/
theorem parseAll_reports_position {bound : Nat} {input : Stream} {name : String}
    {error : ParseError} {position : Option Position}
    (rulesLeave : ∀ name, (rules name).Everywhere LeavesPlace)
    (leaves : grammar.Everywhere LeavesPlace)
    (raised : ((grammar.parserWithin bound verbosity rules).parseAll input name).outcome =
      .error (.fault (.parseFailed error position))) :
    (∃ offset, offset ≤ input.length ∧
      error.remaining = some ((input.length - offset : Nat) : Int) ∧
      position = some (.ofOffset input offset name)) ∨
    (grammar.parserWithin bound verbosity rules input).outcome =
        .error (.fault (.parseFailed error position)) ∧
      ¬ ((∀ name, (rules name).Everywhere (NeverRaises (.parseFailed error position))) ∧
        grammar.Everywhere (NeverRaises (.parseFailed error position))) := by
  rcases Parser.raises_parseAll_iff.mp raised with own | ⟨found, failure, same⟩ |
    ⟨value, rest, element, success, _, same⟩
  · refine Or.inr ⟨own, ?_⟩
    intro never
    exact avoids_parserWithin never.1 never.2 bound input own
  · cases same
    have stands : error.StandsWithin input.length :=
      reports_within rulesLeave leaves bound input.length input (Nat.le_refl _) error failure
    exact Or.inl (stands.position name)
  · cases same
    have short : rest.length ≤ input.length :=
      keeps_within rulesLeave leaves bound input.length input (Nat.le_refl _) value rest success
    have stands : (Parser.leftover element rest).StandsWithin input.length :=
      ⟨rest.length, short, rfl⟩
    exact Or.inl (stands.position name)

theorem fails_behind_first {first second : Grammar ν} {bound : Nat} {input rest : Stream}
    {value : Value} {error : ParseError}
    (rulesLeave : ∀ name, (rules name).Everywhere LeavesPlace)
    (leaves : second.Everywhere LeavesPlace)
    (success : (first.parserWithin bound verbosity rules).Succeeds input value rest)
    (failure : ((both first second).parserWithin bound verbosity rules).Fails input error) :
    error.StandsWithin rest.length := by
  rcases Parser.fails_both_iff.mp (Parser.fails_map_iff.mp failure) with early |
    ⟨other, middle, started, late⟩
  · exact absurd early success.not_fails
  · rcases success.unique started with ⟨_, rfl⟩
    exact reports_within rulesLeave leaves bound rest.length rest (Nat.le_refl _) error late

/-- Every failure of such a grammar has a place in the input.  Parsing a whole input
therefore reports a position that an offset in the input has, unless a callback raises that
very report itself.  What fails behind a first match has its place in what the match left. -/
theorem failures_are_located (rulesLeave : ∀ name, (rules name).Everywhere LeavesPlace)
    (leaves : grammar.Everywhere LeavesPlace) (bound : Nat) (verbosity : Verbosity)
    (input : Stream) :
    let parser := grammar.parserWithin bound verbosity rules
    (∀ error, parser.Fails input error →
      ∃ remaining : Nat, remaining ≤ input.length ∧ error.remaining = some (remaining : Int)) ∧
    (∀ name error position,
      (parser.parseAll input name).outcome = .error (.fault (.parseFailed error position)) →
        (∃ offset, offset ≤ input.length ∧
          error.remaining = some ((input.length - offset : Nat) : Int) ∧
          position = some (.ofOffset input offset name)) ∨
        (parser input).outcome = .error (.fault (.parseFailed error position)) ∧
          ¬ ((∀ name, (rules name).Everywhere (NeverRaises (.parseFailed error position))) ∧
            grammar.Everywhere (NeverRaises (.parseFailed error position)))) ∧
    (∀ first second, grammar = .both first second → ∀ value rest error,
      (first.parserWithin bound verbosity rules).Succeeds input value rest →
      parser.Fails input error →
        ∃ remaining : Nat, remaining ≤ rest.length ∧ error.remaining = some (remaining : Int)) := by
  intro parser
  refine ⟨?_, ?_, ?_⟩
  · exact reports_within rulesLeave leaves bound input.length input (Nat.le_refl _)
  · intro name error position raised
    exact parseAll_reports_position rulesLeave leaves raised
  · intro first second same value rest error success failure
    subst same
    exact fails_behind_first rulesLeave leaves.2.2 success failure

/-- Octal digits up to the end of the input. -/
def octalDigits : Unit → Grammar Unit :=
  fun _ => Scanner.octalDigit.both (.orElse .endOfInput (.rule ()))

theorem failures_of_octalDigits_are_located :
    let parser := (octalDigits ()).parserWithin 5 .warning octalDigits
    let input := Stream.text ['7', '9']
    let error := ParseError.unexpected (.text "0 to 7") (.text "9") (some 1)
    (∀ name, (octalDigits name).Everywhere LeavesPlace) ∧
    (octalDigits ()).Everywhere LeavesPlace ∧
    parser.Fails input error ∧
    (∃ remaining : Nat, remaining ≤ 2 ∧ error.remaining = some (remaining : Int)) ∧
    (parser.parseAll input "").outcome = .error (.fault (.parseFailed error (some ⟨1, 2, ""⟩))) ∧
    (∃ offset, offset ≤ 2 ∧ error.remaining = some ((2 - offset : Nat) : Int) ∧
      some ⟨1, 2, ""⟩ = some (Position.ofOffset input offset "")) ∧
    ∃ remaining : Nat, remaining ≤ 1 ∧ error.remaining = some (remaining : Int) := by
  intro parser input error
  have leaves : ∀ name, (octalDigits name).Everywhere LeavesPlace := by
    intro name
    refine ⟨trivial, ⟨?_, trivial⟩, trivial, trivial, trivial⟩
    intro value cause rejected
    unfold Scanner.checkRange at rejected
    split at rejected
    · split at rejected
      · cases rejected
      · cases rejected
        rfl
    · cases rejected
  have located := failures_are_located leaves (leaves ()) 5 .warning input
  have failure : parser.Fails input error := rfl
  have raised : (parser.parseAll input "").outcome =
      .error (.fault (.parseFailed error (some ⟨1, 2, ""⟩))) := rfl
  have success : (Scanner.octalDigit.parserWithin 5 .warning octalDigits).Succeeds input (.int 7)
      (.text ['9']) := rfl
  refine ⟨leaves, leaves (), failure, located.1 error failure, raised, ?_,
    located.2.2 _ _ rfl _ _ error success failure⟩
  rcases located.2.1 "" error _ raised with place | ⟨own, _⟩
  · exact place
  · cases failure.symm.trans own

end Grammar

end OrderedChoice
