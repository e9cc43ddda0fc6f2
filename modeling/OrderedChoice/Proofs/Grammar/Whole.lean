import OrderedChoice.Proofs.Grammar.Ending
import OrderedChoice.Proofs.Parser.Whole
import OrderedChoice.Proofs.Position
import OrderedChoice.Proofs.Stream.Rest
import OrderedChoice.Scanner.Number

/-!
# Two ways to insist on the whole input

That nothing is left behind can be asked of a grammar, by the end of the input behind it,
or of a parse.  Both ways accept the same inputs with the same values and make the same
errors.  Parsing a whole input adds only the position of the error, which for a text is
where a walk through all characters in front of the error arrives.
-/

namespace OrderedChoice

/-- The position of an error in a text is reached by walking what stands in front of it. -/
theorem ParseError.position?_text {error : ParseError} {characters : List Char} {offset : Nat}
    (within : offset ≤ characters.length)
    (located : error.remaining = some ((characters.length - offset : Nat) : Int))
    (name : String) :
    error.position? (.text characters) name =
      some (Position.walk ⟨1, 1, name⟩ (characters.take offset)) := by
  have back : ((characters.length : Nat) : Int) - ((characters.length - offset : Nat) : Int) =
      (offset : Int) := by omega
  rw [ParseError.position?, located, Option.map_some, Stream.length, back,
    Position.ofOffset_text characters within name]

namespace Grammar

variable {ν : Type} {verbosity : Verbosity} {rules : ν → Parser Value} {rounds : Nat}
  {body : Grammar ν} {input rest : Stream} {value : Value} {error : ParseError}

theorem succeeds_seqLeft_endOfInput_iff :
    ((seqLeft body endOfInput).parser verbosity rules rounds).Succeeds input value rest ↔
      (body.parser verbosity rules rounds).Succeeds input value rest ∧ rest.head? = none := by
  refine Parser.succeeds_seqLeft_iff.trans ?_
  constructor
  · intro success
    rcases success with ⟨middle, _, started, ended⟩
    rcases succeeds_endOfInput_iff.mp ended with ⟨atEnd, _, rfl⟩
    exact ⟨started, atEnd⟩
  · intro success
    rcases success with ⟨started, atEnd⟩
    exact ⟨rest, .nothing, started, succeeds_endOfInput_iff.mpr ⟨atEnd, rfl, rfl⟩⟩

theorem fails_seqLeft_endOfInput_iff :
    ((seqLeft body endOfInput).parser verbosity rules rounds).Fails input error ↔
      (body.parser verbosity rules rounds).Fails input error ∨
        ∃ value rest element, (body.parser verbosity rules rounds).Succeeds input value rest ∧
          rest.head? = some element ∧ error = Parser.leftover element rest := by
  refine Parser.fails_seqLeft_iff.trans (or_congr Iff.rfl (exists_congr fun value =>
    exists_congr fun rest => ?_))
  refine (and_congr Iff.rfl fails_endOfInput_iff).trans ?_
  simp only [exists_and_left]
  rfl

theorem returns_parseAll_iff_succeeds {name : String} :
    ((body.parser verbosity rules rounds).parseAll input name).outcome = .ok value ↔
      ∃ rest, ((seqLeft body endOfInput).parser verbosity rules rounds).Succeeds input value rest ∧
        rest.length = 0 := by
  refine Parser.returns_parseAll_iff.trans (exists_congr fun rest => ?_)
  rw [succeeds_seqLeft_endOfInput_iff, ← Stream.head?_eq_none_iff, and_assoc, and_self]

/-- Where the parser returns, the only report is the error of the closed grammar. -/
theorem raises_parseAll_iff_fails {name : String} {position : Option Position}
    {result : Result Value}
    (returned : (body.parser verbosity rules rounds input).outcome = .ok result) :
    ((body.parser verbosity rules rounds).parseAll input name).outcome =
        .error (.fault (.parseFailed error position)) ↔
      ((seqLeft body endOfInput).parser verbosity rules rounds).Fails input error ∧
        position = error.position? input name := by
  rw [Parser.raises_parseAll_iff, fails_seqLeft_endOfInput_iff]
  constructor
  · intro raised
    rcases raised with own | ⟨cause, failure, same⟩ | ⟨found, rest, element, success, head, same⟩
    · cases returned.symm.trans own
    · cases same
      exact ⟨Or.inl failure, rfl⟩
    · cases same
      exact ⟨Or.inr ⟨found, rest, element, success, head, rfl⟩, rfl⟩
  · intro failed
    rcases failed with ⟨failure | ⟨found, rest, element, success, head, rfl⟩, rfl⟩
    · exact Or.inr (Or.inl ⟨error, failure, rfl⟩)
    · exact Or.inr (Or.inr ⟨found, rest, element, success, head, rfl⟩)

/-- A parse of a whole input whose parser returns ends with a value or with a report. -/
theorem parseAll_returns_or_raises {name : String} {result : Result Value}
    (returned : (body.parser verbosity rules rounds input).outcome = .ok result) :
    (∃ value, ((body.parser verbosity rules rounds).parseAll input name).outcome = .ok value) ∨
      ∃ error position, ((body.parser verbosity rules rounds).parseAll input name).outcome =
        .error (.fault (.parseFailed error position)) := by
  cases result with
  | failure error =>
      exact Or.inr ⟨error, _, (raises_parseAll_iff_fails returned).mpr
        ⟨fails_seqLeft_endOfInput_iff.mpr (Or.inl returned), rfl⟩⟩
  | success value rest =>
      cases head : rest.head? with
      | none => exact Or.inl ⟨value, Parser.returns_parseAll_iff.mpr ⟨rest, returned, head⟩⟩
      | some element =>
          exact Or.inr ⟨_, _, (raises_parseAll_iff_fails returned).mpr
            ⟨fails_seqLeft_endOfInput_iff.mpr
              (Or.inr ⟨value, rest, element, returned, head, rfl⟩), rfl⟩⟩

/-- Wherever a parser returns, parsing a whole input agrees with the parser that has the end
of the input behind it.  It yields a value exactly where that parser succeeds with it and
leaves nothing, and otherwise raises a report, exactly of the error with which that parser
fails.  The report has the position of the error in the input.  In a text this is the
position to which the characters in front of the error lead, one by one, from the first
line and the first column. -/
theorem parseAll_agrees_with_endOfInput {result : Result Value}
    (returned : (body.parser verbosity rules rounds input).outcome = .ok result) (name : String) :
    let whole := ((body.parser verbosity rules rounds).parseAll input name).outcome
    let closed := (seqLeft body endOfInput).parser verbosity rules rounds
    (∀ value, whole = .ok value ↔
      ∃ rest, closed.Succeeds input value rest ∧ rest.length = 0) ∧
    (∀ error position, whole = .error (.fault (.parseFailed error position)) ↔
      closed.Fails input error ∧ position = error.position? input name) ∧
    ((∃ value, whole = .ok value) ∨
      ∃ error position, whole = .error (.fault (.parseFailed error position))) ∧
    (∀ characters, input = .text characters → ∀ (error : ParseError) (offset : Nat),
      offset ≤ characters.length →
      error.remaining = some ((characters.length - offset : Nat) : Int) →
      error.position? input name = some ((characters.take offset).foldl
        (fun position character => position.advance (Value.ofChar character)) ⟨1, 1, name⟩)) := by
  intro whole closed
  refine ⟨fun _ => returns_parseAll_iff_succeeds, fun _ _ => raises_parseAll_iff_fails returned,
    parseAll_returns_or_raises returned, ?_⟩
  intro characters isText error offset within located
  subst isText
  exact error.position?_text within located name

/-- A digit on a line of its own that has something behind it. -/
theorem parseAll_of_numbered_line :
    let body : Grammar Unit := Scanner.lineFeed.seqRight Scanner.digit
    let parser := body.parser .warning (fun _ => Parser.fail "") 0
    let input := Stream.text ['\n', '7', '\t', 'x']
    let error := ParseError.unexpected (.text "end of input") (.text "\t") (some 2)
    (parser input).outcome = .ok (.success (.int 7) (.text ['\t', 'x'])) ∧
    (parser.parseAll input "notes").outcome =
      .error (.fault (.parseFailed error (some ⟨2, 2, "notes"⟩))) ∧
    ((seqLeft body endOfInput).parser .warning (fun _ => Parser.fail "") 0).Fails input error ∧
    error.position? input "notes" = some ((['\n', '7'] : List Char).foldl
      (fun position character => position.advance (Value.ofChar character)) ⟨1, 1, "notes"⟩) := by
  intro body parser input error
  have returned : (parser input).outcome = .ok (.success (.int 7) (.text ['\t', 'x'])) := rfl
  have agrees := parseAll_agrees_with_endOfInput returned "notes"
  have raised : (parser.parseAll input "notes").outcome =
      .error (.fault (.parseFailed error (some ⟨2, 2, "notes"⟩))) := rfl
  refine ⟨returned, raised, ((agrees.2.1 error _).mp raised).1, ?_⟩
  exact agrees.2.2.2 ['\n', '7', '\t', 'x'] rfl error 2 (by decide) rfl

end Grammar

end OrderedChoice
