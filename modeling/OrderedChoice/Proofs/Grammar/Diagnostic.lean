import OrderedChoice.Proofs.Grammar.Ending
import OrderedChoice.Proofs.Grammar.Report
import OrderedChoice.Proofs.Parser.Progress
import OrderedChoice.Proofs.Parser.Whole
import OrderedChoice.Proofs.Value.Shown
import OrderedChoice.Scanner.Number

/-!
# How errors name the end of the input

An error about an element that was not expected shows what was found instead, and where the
input has ended it shows the empty text for it.  An element that is the empty text is shown
in the same way.  It is the only one: on an input that does not have it among its elements,
as no text and no bytes have, an error names the end exactly where nothing is left.
-/

namespace OrderedChoice

namespace ParseError

variable {origin rest : Stream} {expected found element : Value}

/-- The error stands at a rest of the origin.  It has found nothing where the rest is empty,
and where it seems to have found nothing, the rest is empty or goes on with the empty text. -/
def PointsInto (origin : Stream) : ParseError → Prop
  | .unexpected _ found remaining =>
      ∃ rest : Stream, rest.IsRest origin ∧ remaining = some (rest.length : Int) ∧
        (rest.head? = none → found = .text "") ∧
        (found = .text "" → rest.head? = none ∨ rest.head? = some (.text ""))
  | _ => True

theorem pointsInto_end (isRest : rest.IsRest origin) (ended : rest.head? = none) :
    (unexpected expected (.text "") (some 0)).PointsInto origin := by
  refine ⟨rest, isRest, ?_, fun _ => rfl, fun _ => Or.inl ended⟩
  rw [(Stream.head?_eq_none_iff rest).mp ended]
  rfl

theorem pointsInto_shown (isRest : rest.IsRest origin) (head : rest.head? = some element) :
    (unexpected expected (.text element.shown) (some rest.length)).PointsInto origin := by
  refine ⟨rest, isRest, rfl, ?_, ?_⟩
  · intro ended
    rw [ended] at head
    cases head
  · intro empty
    rw [Value.text.injEq, Value.shown_eq_empty_iff] at empty
    exact Or.inr (empty ▸ head)

theorem pointsInto_nonempty (isRest : rest.IsRest origin) (some : rest.length ≠ 0)
    (nonempty : found ≠ .text "") :
    (unexpected expected found (.some rest.length)).PointsInto origin := by
  refine ⟨rest, isRest, rfl, ?_, fun empty => absurd empty nonempty⟩
  intro ended
  exact absurd ((Stream.head?_eq_none_iff rest).mp ended) some

/-- The first elements of a rest, shown as one value, are the empty text at the end only. -/
theorem pointsInto_taken {count : Nat} (isRest : rest.IsRest origin) (some : 0 < count) :
    (unexpected expected
      (.text (if rest.length = 0 then "" else (rest.take count).toValue.shown))
      (.some rest.length)).PointsInto origin := by
  by_cases ended : rest.length = 0
  · rw [if_pos ended, ended]
    exact pointsInto_end isRest ((Stream.head?_eq_none_iff rest).mpr ended)
  · rw [if_neg ended]
    refine pointsInto_nonempty isRest ended ?_
    have taken : (rest.take count).length ≠ 0 := by
      rw [← Stream.length_toList, Stream.toList_take, List.length_take, Stream.length_toList]
      omega
    rw [ne_eq, Value.text.injEq]
    exact Stream.shown_toValue_ne_empty taken

theorem text_unexpected_empty {remaining : Option Int} :
    (unexpected expected (.text "") remaining).text =
      "expected " ++ expected.shown ++ ", got end of input" := by
  have nothing : (Value.text "").isEmpty = true := rfl
  rw [text, if_pos nothing, String.append_assoc]
  rfl

/-- An error that has found the empty text says that the input has ended, and it does so
exactly where nothing is left. -/
def NamesEnd : ParseError → Prop
  | .unexpected expected found remaining =>
      (found = .text "" ↔ remaining = some 0) ∧
        (found = .text "" →
          (unexpected expected found remaining).text =
            "expected " ++ expected.shown ++ ", got end of input")
  | _ => True

theorem PointsInto.namesEnd {error : ParseError} (points : error.PointsInto origin)
    (noEmptyText : .text "" ∉ origin.toList) : error.NamesEnd := by
  cases error with
  | unexpected expected found remaining =>
      rcases points with ⟨rest, ⟨count, _, rfl⟩, rfl, ended, unfound⟩
      rw [Stream.head?_eq_none_iff] at ended unfound
      refine ⟨⟨?_, ?_⟩, ?_⟩
      · intro empty
        rcases unfound empty with none | head
        · rw [none]
          rfl
        · rw [Stream.head?_eq, Stream.toList_drop] at head
          exact absurd (List.mem_of_mem_drop (List.mem_of_head? head)) noEmptyText
      · intro none
        rw [Option.some.injEq] at none
        exact ended (by omega)
      · intro empty
        rw [empty, text_unexpected_empty]
  | _ => trivial

end ParseError

/-- The error is the parser's failure, or what parsing the whole input raises. -/
def Parser.Gives {α : Type} (parser : Parser α) (input : Stream) (error : ParseError) : Prop :=
  parser.Fails input error ∨ ∃ name position,
    (parser.parseAll input name).outcome = .error (.fault (.parseFailed error position))

namespace Grammar

variable {ν : Type} {verbosity : Verbosity} {bound : Nat} {rules : ν → Grammar ν}
  {grammar : Grammar ν} {input origin : Stream} {error : ParseError}

/-- The scanners that check what they have read. -/
def checkingScanners : List (Grammar ν) :=
  [Scanner.asciiCharacter, Scanner.binaryDigit, Scanner.octalDigit, Scanner.hexadecimalDigit]

/-- The part shows elements in the way that is the default, and no check of a caller makes
an error. -/
def ShowsElements : Grammar ν → Prop
  | .token _ _ display | .tokens _ _ display => display = Value.shown
  | .filter check body =>
      (∀ value error, check value ≠ .ok (some error)) ∨ .filter check body ∈ checkingScanners
  | .custom _ _ => False
  | _ => True

/-- All errors about the part are made by this library. -/
def IsPlain (part : Grammar ν) : Prop :=
  part.ShowsElements ∧ ∀ error position, part.NeverRaises (.parseFailed error position)

theorem IsComposed.of_showsElements {part : Grammar ν} (shows : part.ShowsElements) :
    part.IsComposed := by
  cases part with
  | custom => exact shows
  | _ => trivial

section Checks

variable {check : Value → Except Fault (Option ParseError)} {body : Grammar ν} {value : Value}

theorem unexpected_of_checkRange {low high : Int} {expected : String}
    (rejected : Scanner.checkRange low high expected value = .ok (some error)) :
    ∃ number : Int, error = .unexpected (.text expected) (.text (toString number)) none := by
  unfold Scanner.checkRange at rejected
  split at rejected
  · rename_i number
    split at rejected
    · cases rejected
    · cases rejected
      exact ⟨number, rfl⟩
  · cases rejected

/-- The empty text has no character that is not ASCII. -/
theorem not_empty_of_notAscii {characters : List Char}
    (read : Scanner.characters value = .ok characters)
    (notAscii : Scanner.isAscii characters = false) : value ≠ .text "" := by
  intro empty
  rw [empty] at read
  cases read
  cases notAscii

/-- The check of a scanner shows what it rejects, which is never the empty text. -/
theorem shows_of_checked (member : .filter check body ∈ checkingScanners)
    (rejected : check value = .ok (some error)) :
    ∃ expected found, error = .unexpected expected found none ∧ found ≠ .text "" := by
  have ofRange : ∀ {low high expected},
      Scanner.checkRange low high expected value = .ok (some error) →
        ∃ expected found, error = .unexpected expected found none ∧ found ≠ .text "" := by
    intro low high expected rejected
    rcases unexpected_of_checkRange rejected with ⟨number, rfl⟩
    refine ⟨_, _, rfl, ?_⟩
    rw [ne_eq, Value.text.injEq]
    exact Value.toString_int_ne_empty number
  simp only [checkingScanners, List.mem_cons, List.not_mem_nil, or_false] at member
  rcases member with same | same | same | same <;> cases same
  · cases read : Scanner.characters value with
    | error cause =>
        simp only [read] at rejected
        cases rejected
    | ok characters =>
        have verdict : (if Scanner.isAscii characters = true then Except.ok none
            else Except.ok (some (.unexpected (.text "ascii") value none))) =
              (Except.ok (some error) : Except Fault (Option ParseError)) := by
          simp only [read] at rejected
          exact rejected
        cases ascii : Scanner.isAscii characters with
        | true =>
            rw [ascii] at verdict
            cases verdict
        | false =>
            rw [ascii] at verdict
            cases verdict
            exact ⟨_, _, rfl, not_empty_of_notAscii read ascii⟩
  · exact ofRange rejected
  · exact ofRange rejected
  · exact ofRange rejected

theorem progresses_of_checked {rules : ν → Parser Value} {rounds : Nat}
    (member : .filter check body ∈ checkingScanners) :
    (body.parser verbosity rules rounds).Progresses := by
  simp only [checkingScanners, List.mem_cons, List.not_mem_nil, or_false] at member
  rcases member with same | same | same | same <;> cases same
  · exact Parser.progresses_token _ _ _
  · exact Parser.progresses_token _ _ _
  · exact Parser.progresses_token _ _ _
  · exact (Parser.progresses_token _ _ _).mapM _

end Checks

theorem MakesOnly.of_showsElements {part : Grammar ν} (shows : part.ShowsElements) :
    part.MakesOnly (fun stream => stream.IsRest origin) (ParseError.PointsInto origin) := by
  cases part with
  | fail content =>
      intro input _ error failure
      rw [Parser.fails_fail_iff.mp failure]
      trivial
  | endOfInput =>
      intro input isRest error failure
      rcases Parser.fails_endOfInput_iff.mp failure with ⟨element, head, rfl⟩
      exact ParseError.pointsInto_shown isRest head
  | token select expected display =>
      intro input isRest error failure
      cases shows
      rcases Parser.fails_token_iff.mp failure with ⟨ended, rfl⟩ | ⟨element, head, _, rfl⟩
      · exact ParseError.pointsInto_end isRest ended
      · exact ParseError.pointsInto_shown isRest head
  | tokens literal expected display =>
      intro input isRest error failure
      cases shows
      rcases Parser.fails_tokens_iff.mp failure with ⟨starts, rfl⟩
      refine ParseError.pointsInto_taken isRest (Nat.pos_of_ne_zero ?_)
      intro empty
      rw [input.startsWith_of_length_eq_zero empty] at starts
      cases starts
  | matching pattern =>
      intro input isRest error failure
      rw [failure.report_of_matching]
      exact ParseError.pointsInto_taken isRest Nat.one_pos
  | filter check body =>
      intro input isRest value matched error rejected
      rcases shows with silent | member
      · exact absurd rejected (silent value error)
      · rcases matched with ⟨verbosity, rules, rounds, rest, success⟩
        rcases shows_of_checked member rejected with ⟨expected, found, rfl, nonempty⟩
        exact ParseError.pointsInto_nonempty isRest
          (Nat.ne_zero_of_lt (progresses_of_checked member input value rest success)) nonempty
  | repeated least combinator body => exact fun _ _ => trivial
  | notFollowedBy body => exact fun _ _ _ => trivial
  | custom => exact shows
  | _ => trivial

/-- Every error of a plain grammar points into the input, and so does what parsing the whole
input raises. -/
theorem pointsInto_of_gives (rulesPlain : ∀ name, (rules name).Everywhere IsPlain)
    (plain : grammar.Everywhere IsPlain)
    (gives : (grammar.parserWithin bound verbosity rules).Gives input error) :
    error.PointsInto input := by
  have reports : ∀ error, (grammar.parserWithin bound verbosity rules).Fails input error →
      error.PointsInto input :=
    reports_parserWithin
      (fun name => (rulesPlain name).mono fun _ part => MakesOnly.of_showsElements part.1)
      (plain.mono fun _ part => MakesOnly.of_showsElements part.1)
      (Stream.isRegion_rests input) bound input (.refl input)
  rcases gives with failure | ⟨name, position, raised⟩
  · exact reports error failure
  · rcases Parser.raises_parseAll_iff.mp raised with own | ⟨found, failure, same⟩ |
      ⟨value, rest, element, success, head, same⟩
    · have avoids : (grammar.parserWithin bound verbosity rules).Avoids
          (.parseFailed error position) :=
        avoids_parserWithin (fun name => (rulesPlain name).mono fun _ part => part.2 error position)
          (plain.mono fun _ part => part.2 error position) bound
      exact absurd own (avoids input)
    · cases same
      exact reports error failure
    · cases same
      have isRest : rest.IsRest input :=
        keeps_parserWithin
          (fun name => (rulesPlain name).mono fun _ part => IsComposed.of_showsElements part.1)
          (plain.mono fun _ part => IsComposed.of_showsElements part.1)
          (Stream.isRegion_rests input) bound input (.refl input) value rest success
      exact ParseError.pointsInto_shown isRest head

/-! ## The empty text as an element -/

/-- Take an element, whatever it is. -/
def anyElement : Grammar ν := satisfy (fun _ => .ok true) (.text "token") Value.shown

/-- Take so many elements and ask for the end of the input. -/
def endBehind (count : Nat) : Grammar ν := (Grammar.exactly count anyElement).seqRight .endOfInput

theorem isPlain_endBehind (count : Nat) : (endBehind count : Grammar ν).Everywhere IsPlain := by
  have any : IsPlain (anyElement : Grammar ν) := ⟨rfl, fun _ _ _ same => nomatch same⟩
  exact ⟨⟨trivial, fun _ _ => trivial⟩, ⟨⟨trivial, fun _ _ => trivial⟩, any⟩, trivial,
    fun _ _ => trivial⟩

theorem exactly_anyElement {rules : ν → Parser Value} {rounds count : Nat}
    (within : count ≤ input.length) :
    ∃ values, (((anyElement : Grammar ν).parser verbosity rules rounds).exactly count).Succeeds
      input values (input.drop count) := by
  induction count generalizing input with
  | zero => exact ⟨[], Parser.succeeds_exactly_zero_iff.mpr ⟨rfl, input.drop_zero⟩⟩
  | succ count later =>
      cases head : input.head? with
      | none =>
          rw [(Stream.head?_eq_none_iff input).mp head] at within
          exact absurd within (Nat.not_succ_le_zero count)
      | some element =>
          rcases @later (input.drop 1) (by rw [Stream.length_drop]; omega) with ⟨values, success⟩
          rw [Stream.drop_drop, Nat.add_comm] at success
          exact ⟨element :: values, Parser.succeeds_exactly_succ_iff.mpr ⟨element, values,
            input.drop 1, rfl, succeeds_satisfy_iff.mpr ⟨head, rfl, rfl⟩, success⟩⟩

theorem fails_endBehind {count : Nat} {element : Value}
    (head : (input.drop count).head? = some element) :
    ((endBehind count : Grammar ν).parserWithin bound verbosity rules).Fails input
      (Parser.leftover element (input.drop count)) := by
  have within : count ≤ input.length := by
    by_contra beyond
    have ended : (input.drop count).head? = none := by
      rw [Stream.head?_eq_none_iff, Stream.length_drop]
      omega
    rw [ended] at head
    cases head
  rcases exactly_anyElement within with ⟨values, success⟩
  exact Parser.fails_seqRight_iff.mpr (Or.inr ⟨.list values, input.drop count,
    Parser.succeeds_map_iff.mpr ⟨values, success, rfl⟩,
    fails_endOfInput_iff.mpr ⟨element, head, rfl⟩⟩)

/-- On one input, whatever the grammar and the rules: every error stands at a rest of the
input, and it has found the empty text there when the rest is empty and otherwise only when
the rest goes on with the empty text.  So all errors name the end of the input exactly where
it is, just when the input does not have the empty text as an element. -/
theorem errors_name_end_iff (rulesPlain : ∀ name, (rules name).Everywhere IsPlain) (bound : Nat)
    (verbosity : Verbosity) (input : Stream) :
    (∀ grammar : Grammar ν, grammar.Everywhere IsPlain → ∀ error,
      (grammar.parserWithin bound verbosity rules).Gives input error →
        error.PointsInto input) ∧
    ((∀ grammar : Grammar ν, grammar.Everywhere IsPlain → ∀ error,
      (grammar.parserWithin bound verbosity rules).Gives input error → error.NamesEnd) ↔
        .text "" ∉ input.toList) := by
  refine ⟨fun grammar plain error gives => pointsInto_of_gives rulesPlain plain gives, ?_, ?_⟩
  · intro named member
    -- the end of the input is asked for just where the empty text stands
    rcases List.getElem_of_mem member with ⟨count, within, here⟩
    rw [Stream.length_toList] at within
    have head : (input.drop count).head? = some (.text "") := by
      rw [Stream.head?_eq, Stream.toList_drop, List.head?_drop, ← here, List.getElem?_eq_getElem]
    have named := named (endBehind count) (isPlain_endBehind count) _
      (Or.inl (fails_endBehind head))
    have ended : (input.drop count).length = 0 := Int.ofNat.inj (Option.some.inj (named.1.mp rfl))
    rw [Stream.length_drop] at ended
    omega
  · intro noEmptyText grammar plain error gives
    exact (pointsInto_of_gives rulesPlain plain gives).namesEnd noEmptyText

theorem isPlain_digit : (Scanner.digit : Grammar ν).IsPlain := by
  refine ⟨rfl, ?_⟩
  intro error position element raised
  change Scanner.decimalValue element = _ at raised
  unfold Scanner.decimalValue at raised
  cases read : Scanner.characters element with
  | error cause =>
      rw [read] at raised
      cases raised
      cases element <;> cases read
  | ok characters =>
      rw [read] at raised
      change (if _ then Except.ok none else Except.ok (some _)) = _ at raised
      split at raised <;> cases raised

theorem isPlain_exactCharacter (character : Char) :
    (Scanner.exactCharacter character : Grammar ν).IsPlain :=
  ⟨rfl, fun _ _ _ same => nomatch same⟩

theorem isPlain_decimal : (Scanner.decimal : Grammar ν).Everywhere IsPlain := by
  have reads : ∀ error position value,
      Scanner.floatingValue value ≠ .error (.parseFailed error position) := by
    intro error position value
    cases value with
    | text content =>
        change (if _ then Except.ok _ else Except.error (Fault.badValue _)) ≠ _
        split <;> exact nofun
    | _ => exact nofun
  exact ⟨⟨trivial, reads⟩, trivial, Parser.avoids_matching Scanner.decimalPattern⟩

/-- Decimals behind semicolons, up to the end of the input. -/
def decimalsBehindMarks : Unit → Grammar Unit := fun _ =>
  .orElse .endOfInput ((Scanner.exactCharacter ';').seqRight (Scanner.decimal.both (.rule ())))

theorem errors_of_decimalsBehindMarks_name_end :
    let parser := (decimalsBehindMarks ()).parserWithin 5 .warning decimalsBehindMarks
    let input := Stream.text [';']
    let error := ParseError.unexpected (.text "/[0-9]+([.,][0-9]+)?/") (.text "") (some 0)
    (∀ name, (decimalsBehindMarks name).Everywhere IsPlain) ∧ .text "" ∉ input.toList ∧
      parser.Gives input error ∧ error.NamesEnd ∧
      error.text = "expected /[0-9]+([.,][0-9]+)?/, got end of input" := by
  intro parser input error
  have plain : ∀ name, (decimalsBehindMarks name).Everywhere IsPlain := by
    intro name
    have silent : ∀ {part : Grammar Unit}, part.ShowsElements →
        (∀ cause, part.NeverRaises cause) → part.IsPlain :=
      fun shows never => ⟨shows, fun _ _ => never _⟩
    exact ⟨silent trivial fun _ => trivial, silent trivial fun _ => trivial,
      silent trivial fun _ => trivial, isPlain_exactCharacter ';', silent trivial fun _ => trivial,
      isPlain_decimal, silent trivial fun _ => trivial⟩
  have noEmptyText : .text "" ∉ input.toList := by
    simp [input, Stream.toList, Value.ofChar]
  have gives : parser.Gives input error := Or.inl rfl
  have named : error.NamesEnd :=
    (errors_name_end_iff plain 5 .warning input).2.mpr noEmptyText _ (plain ()) error gives
  exact ⟨plain, noEmptyText, gives, named, named.2 rfl⟩

/-- An empty text in front of what is left is reported as the end of the input. -/
theorem empty_text_taken_for_end :
    let input := Stream.list [.text ""]
    let digit := (Scanner.digit : Grammar Unit).parserWithin 1 .warning fun _ => .fail ""
    let nothing := (Grammar.pure .nothing : Grammar Unit).parserWithin 1 .warning fun _ => .fail ""
    let unfound := ParseError.unexpected (.text "digit") (.text "") (some 1)
    let left := ParseError.unexpected (.text "end of input") (.text "") (some 1)
    (Scanner.digit : Grammar Unit).IsPlain ∧
    digit.Fails input unfound ∧ ¬ unfound.NamesEnd ∧
    unfound.text = "expected digit, got end of input" ∧
    (nothing.parseAll input "").outcome =
      .error (.fault (.parseFailed left (some ⟨1, 1, ""⟩))) ∧ ¬ left.NamesEnd ∧
    left.text = "expected end of input, got end of input" := by
  intro input digit nothing unfound left
  have somethingLeft : ¬ (some 1 : Option Int) = some 0 := by decide
  refine ⟨isPlain_digit, rfl, fun named => somethingLeft (named.1.mp rfl), ?_, rfl,
    fun named => somethingLeft (named.1.mp rfl), ?_⟩
  · exact ParseError.text_unexpected_empty
  · exact ParseError.text_unexpected_empty

end Grammar

end OrderedChoice
