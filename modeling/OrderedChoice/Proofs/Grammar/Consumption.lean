import OrderedChoice.Proofs.Grammar.Location
import OrderedChoice.Proofs.Parser.Progress
import OrderedChoice.Proofs.Scanner.Decimal

/-!
# Grammars that consume input

Most grammars consume input by their form: elements and literals do, and so does every
grammar with a part that cannot be left out and that does.  A repetition of such a grammar
never meets a match that leaves everything.
-/

namespace OrderedChoice

namespace Scanner

variable {ν : Type}

/-- The parsers for characters and numbers that are not given anything to look for. -/
def parsers : List (Grammar ν) :=
  [anyCharacter, asciiCharacter, asciiText, plusSign, minusSign, asterisk, slash, equalsSign,
    doubleEquals, space, lineFeed, lineBreak, tab, blank, blanks, digit, binaryDigit,
    binaryNumeral, octalDigit, octalNumeral, hexadecimalDigit, hexadecimalNumeral,
    decimalNumeral, integer, decimal]

theorem IsNumeral.length_pos {numeral : List Char} (isNumeral : IsNumeral numeral) :
    0 < numeral.length := by
  cases isNumeral with
  | whole areDigits => exact List.length_pos_of_ne_nil areDigits.ne_nil
  | fraction areDigits _ _ =>
      rw [List.length_append]
      exact Nat.add_pos_left (List.length_pos_of_ne_nil areDigits.ne_nil) _

/-- The pattern of decimals is one for text, and takes at least a digit. -/
theorem progresses_decimal {verbosity : Verbosity} {rules : ν → Parser Value} {rounds : Nat} :
    ((decimal : Grammar ν).parser verbosity rules rounds).Progresses := by
  intro input value rest success
  cases input with
  | text characters =>
      rcases IsNumeral.of_decimal success with ⟨numeral, after, isNumeral, rfl, _, rfl⟩
      change after.length < (numeral ++ after).length
      rw [List.length_append]
      exact Nat.lt_add_of_pos_left isNumeral.length_pos
  | bytes | list | tuple => cases success

end Scanner

namespace Grammar

variable {ν : Type} {verbosity : Verbosity} {rounds : Nat} {grammar : Grammar ν}

/-- The grammars that consume input by their form.  A part that need not consume anything
may be any composed grammar. -/
inductive IsConsuming : Grammar ν → Prop where
  | token (select : Value → Except Fault (Option Value)) (expected : Value)
      (display : Value → String) : IsConsuming (.token select expected display)
  | tokens {literal : Stream} (some : 0 < literal.length) (expected : Value)
      (display : Value → String) : IsConsuming (.tokens literal expected display)
  | decimal : IsConsuming Scanner.decimal
  | repeated {least : Nat} {body : Grammar ν} (some : 0 < least) (combinator : String)
      (composed : body.Everywhere IsComposed) : IsConsuming (.repeated least combinator body)
  | named {body : Grammar ν} (name : String) (consuming : IsConsuming body) :
      IsConsuming (.named name body)
  | map {body : Grammar ν} (f : Value → Except Fault Value) (consuming : IsConsuming body) :
      IsConsuming (.map f body)
  | filter {body : Grammar ν} (check : Value → Except Fault (Option ParseError))
      (consuming : IsConsuming body) : IsConsuming (.filter check body)
  | observed {body : Grammar ν} (label : String) (consuming : IsConsuming body) :
      IsConsuming (.observed label body)
  | exactly {count : Nat} {body : Grammar ν} (some : 0 < count) (consuming : IsConsuming body) :
      IsConsuming (.exactly count body)
  | bothFirst {first second : Grammar ν} (consuming : IsConsuming first)
      (composed : second.Everywhere IsComposed) : IsConsuming (.both first second)
  | bothSecond {first second : Grammar ν} (composed : first.Everywhere IsComposed)
      (consuming : IsConsuming second) : IsConsuming (.both first second)
  | seqRightFirst {first second : Grammar ν} (consuming : IsConsuming first)
      (composed : second.Everywhere IsComposed) : IsConsuming (.seqRight first second)
  | seqRightSecond {first second : Grammar ν} (composed : first.Everywhere IsComposed)
      (consuming : IsConsuming second) : IsConsuming (.seqRight first second)
  | seqLeftFirst {first second : Grammar ν} (consuming : IsConsuming first)
      (composed : second.Everywhere IsComposed) : IsConsuming (.seqLeft first second)
  | seqLeftSecond {first second : Grammar ν} (composed : first.Everywhere IsComposed)
      (consuming : IsConsuming second) : IsConsuming (.seqLeft first second)
  | orElse {first second : Grammar ν} (consuming : IsConsuming first)
      (secondConsuming : IsConsuming second) : IsConsuming (.orElse first second)
  | bindFirst {first : Grammar ν} {next : Value → Grammar ν} (consuming : IsConsuming first)
      (composed : ∀ value, (next value).Everywhere IsComposed) : IsConsuming (.bind first next)
  /-- Where the continuation raises a fault there is no grammar to ask. -/
  | bindSecond {first : Grammar ν} {next : Value → Grammar ν}
      (composed : first.Everywhere IsComposed)
      (consuming : ∀ value, (∀ cause, next value ≠ .fault cause) → IsConsuming (next value)) :
      IsConsuming (.bind first next)
  | chainLeftBy {term operator : Grammar ν} (apply : Value → Value → Value → Except Fault Value)
      (consuming : IsConsuming term) (composed : operator.Everywhere IsComposed) :
      IsConsuming (.chainLeftBy apply term operator)
  | chainRightBy {term operator : Grammar ν} (apply : Value → Value → Value → Except Fault Value)
      (consuming : IsConsuming term) (composed : operator.Everywhere IsComposed) :
      IsConsuming (.chainRightBy apply term operator)

/-- A continuation is either a fault or has the property. -/
theorem forall_of_unless_fault {property : Grammar ν → Prop} {next : Value → Grammar ν}
    (faulty : ∀ cause, property (.fault cause))
    (holds : ∀ value, (∀ cause, next value ≠ .fault cause) → property (next value))
    (value : Value) : property (next value) := by
  by_cases fault : ∃ cause, next value = .fault cause
  · rcases fault with ⟨cause, same⟩
    exact same ▸ faulty cause
  · exact holds value (not_exists.mp fault)

theorem IsConsuming.composed (consuming : IsConsuming grammar) :
    grammar.Everywhere IsComposed := by
  induction consuming with
  | token | tokens => exact trivial
  | decimal => exact ⟨trivial, trivial⟩
  | repeated _ _ composed => exact ⟨trivial, composed⟩
  | named _ _ composed | map _ _ composed | filter _ _ composed | observed _ _ composed
  | exactly _ _ composed => exact ⟨trivial, composed⟩
  | bothFirst _ composed first | seqRightFirst _ composed first | seqLeftFirst _ composed first
  | bindFirst _ composed first | chainLeftBy _ _ composed first
  | chainRightBy _ _ composed first => exact ⟨trivial, first, composed⟩
  | bothSecond composed _ second | seqRightSecond composed _ second
  | seqLeftSecond composed _ second => exact ⟨trivial, composed, second⟩
  | orElse _ _ first second => exact ⟨trivial, first, second⟩
  | bindSecond composed _ next =>
      exact ⟨trivial, composed, forall_of_unless_fault (fun _ => trivial) next⟩

/-- A consuming grammar makes progress, whatever its rules are. -/
theorem IsConsuming.progresses {rules : ν → Parser Value} (consuming : IsConsuming grammar)
    (rulesNever : ∀ name, (rules name).NeverLengthens) :
    (grammar.parser verbosity rules rounds).Progresses := by
  have never : ∀ {part : Grammar ν}, part.Everywhere IsComposed →
      (part.parser verbosity rules rounds).NeverLengthens := by
    intro part composed limit
    exact keeps_of_composed composed (fun name => rulesNever name limit) (isRegion_short limit)
  induction consuming with
  | token select expected display => exact Parser.progresses_token select expected display
  | tokens some expected display => exact Parser.progresses_tokens some expected display
  | decimal => exact Scanner.progresses_decimal
  | repeated some combinator composed =>
      exact (Parser.progresses_repeated some combinator _).map _
  | named name _ progresses => exact progresses
  | map f _ progresses => exact progresses.mapM f
  | filter check _ progresses => exact progresses.filter check
  | observed label _ progresses => exact progresses.observed verbosity label _
  | exactly some consuming progresses =>
      exact (progresses.exactly (never consuming.composed) some).map _
  | bothFirst consuming composed progresses =>
      exact (Parser.Progresses.both (never consuming.composed) (never composed)
        (Or.inl progresses)).map _
  | bothSecond composed consuming progresses =>
      exact (Parser.Progresses.both (never composed) (never consuming.composed)
        (Or.inr progresses)).map _
  | seqRightFirst consuming composed progresses =>
      exact .seqRight (never consuming.composed) (never composed) (Or.inl progresses)
  | seqRightSecond composed consuming progresses =>
      exact .seqRight (never composed) (never consuming.composed) (Or.inr progresses)
  | seqLeftFirst consuming composed progresses =>
      exact .seqLeft (never consuming.composed) (never composed) (Or.inl progresses)
  | seqLeftSecond composed consuming progresses =>
      exact .seqLeft (never composed) (never consuming.composed) (Or.inr progresses)
  | orElse _ _ progresses secondProgresses => exact progresses.orElse secondProgresses
  | bindFirst consuming composed progresses =>
      exact .bind (never consuming.composed) (fun value => never (composed value))
        (Or.inl progresses)
  | @bindSecond first next composed consuming progresses =>
      have nextComposed : ∀ value, (next value).Everywhere IsComposed :=
        (bindSecond composed consuming).composed.2.2
      have faulty : ∀ cause, Parser.Progresses
          (Grammar.parser verbosity rules rounds (.fault cause)) := by
        intro cause input value rest success
        exact absurd success Parser.not_succeeds_fault
      exact .bind (never composed) (fun value => never (nextComposed value))
        (Or.inr (@forall_of_unless_fault ν
          (fun part => (part.parser verbosity rules rounds).Progresses) next faulty progresses))
  | chainLeftBy apply consuming composed progresses =>
      exact progresses.chainLeft (never consuming.composed) (never composed) rounds apply
  | chainRightBy apply consuming composed progresses =>
      exact progresses.chainRight (never consuming.composed) (never composed) rounds apply

/-! ## Derived combinators and scanners -/

namespace IsConsuming

variable {body : Grammar ν}

theorem atLeastOnce (composed : body.Everywhere IsComposed) : IsConsuming body.atLeastOnce :=
  .repeated Nat.one_pos _ composed

theorem skipAtLeastOnce (composed : body.Everywhere IsComposed) :
    IsConsuming body.skipAtLeastOnce :=
  .map _ (.repeated Nat.one_pos _ composed)

theorem choice {alternatives : List (Grammar ν)} (some : alternatives ≠ [])
    (consuming : ∀ alternative ∈ alternatives, IsConsuming alternative) :
    IsConsuming (Grammar.choice alternatives) := by
  cases alternatives with
  | nil => exact absurd rfl some
  | cons first others =>
      rw [List.forall_mem_cons] at consuming
      exact List.foldlRecOn others .orElse consuming.1 fun _ earlier other member =>
        .orElse earlier (consuming.2 other member)

theorem foldl_both {first : Grammar ν} {others : List (Grammar ν)}
    (composed : first.Everywhere IsComposed)
    (othersComposed : ∀ other ∈ others, other.Everywhere IsComposed)
    (either : IsConsuming first ∨ ∃ other ∈ others, IsConsuming other) :
    IsConsuming (others.foldl .both first) := by
  induction others generalizing first with
  | nil =>
      rcases either with consuming | ⟨other, member, _⟩
      · exact consuming
      · cases member
  | cons other others later =>
      rw [List.forall_mem_cons] at othersComposed
      refine later ⟨trivial, composed, othersComposed.1⟩ othersComposed.2 ?_
      rcases either with consuming | ⟨found, member, consuming⟩
      · exact Or.inl (.bothFirst consuming othersComposed.1)
      · rcases List.mem_cons.mp member with rfl | behind
        · exact Or.inl (.bothSecond composed consuming)
        · exact Or.inr ⟨found, behind, consuming⟩

theorem sequence {first : Grammar ν} {others : List (Grammar ν)}
    (composed : ∀ part ∈ first :: others, part.Everywhere IsComposed)
    (one : ∃ part ∈ first :: others, IsConsuming part) :
    IsConsuming (Grammar.sequence first others) := by
  rw [List.forall_mem_cons] at composed
  refine .map _ (foldl_both composed.1 composed.2 ?_)
  rcases one with ⟨part, member, consuming⟩
  rcases List.mem_cons.mp member with rfl | behind
  · exact Or.inl consuming
  · exact Or.inr ⟨part, behind, consuming⟩

theorem between {opening closing body : Grammar ν}
    (composed : ∀ part ∈ [opening, closing, body], part.Everywhere IsComposed)
    (one : ∃ part ∈ [opening, closing, body], IsConsuming part) :
    IsConsuming (Grammar.between opening closing body) := by
  simp only [List.forall_mem_cons] at composed
  simp only [List.mem_cons, List.not_mem_nil, or_false, exists_eq_or_imp, exists_eq_left] at one
  rcases composed with ⟨openingComposed, closingComposed, bodyComposed, _⟩
  rcases one with consuming | consuming | consuming
  · exact .seqLeftFirst (.seqRightFirst consuming bodyComposed) closingComposed
  · exact .seqLeftSecond ⟨trivial, openingComposed, bodyComposed⟩ consuming
  · exact .seqLeftFirst (.seqRightSecond openingComposed consuming) closingComposed

theorem separatedOnce {item separator : Grammar ν} (consuming : IsConsuming item)
    (composed : separator.Everywhere IsComposed) : IsConsuming (item.separatedOnce separator) :=
  .map _ (.bothFirst consuming ⟨trivial, trivial, composed, consuming.composed⟩)

theorem character (wanted : Value) : IsConsuming (Scanner.character wanted : Grammar ν) := by
  cases wanted <;> exact .token _ _ _

theorem literal {content : String} (some : content ≠ "") :
    IsConsuming (Scanner.literal content : Grammar ν) := by
  refine .tokens ?_ _ _
  refine List.length_pos_of_ne_nil ?_
  intro none
  exact some (String.toList_eq_nil_iff.mp none)

theorem textOfLength {count : Nat} (some : 0 < count) :
    IsConsuming (Scanner.textOfLength count : Grammar ν) :=
  .map _ (.exactly some (.token _ _ _))

theorem of_mem_parsers : ∀ scanner ∈ (Scanner.parsers : List (Grammar ν)),
    IsConsuming scanner := by
  have sign : ∀ character, IsConsuming (Scanner.exactCharacter character : Grammar ν) :=
    fun _ => .token _ _ _
  have digit : IsConsuming (Scanner.digit : Grammar ν) := .token _ _ _
  have hexadecimalDigit : IsConsuming (Scanner.hexadecimalDigit : Grammar ν) :=
    .filter _ (.map _ (.token _ _ _))
  have blank : IsConsuming (Scanner.blank : Grammar ν) :=
    .orElse (.orElse (.orElse (sign ' ') (sign '\n')) (literal (by decide))) (sign '\t')
  have asciiCharacter : IsConsuming (Scanner.asciiCharacter : Grammar ν) :=
    .filter _ (.token _ _ _)
  -- a numeral behind the mark of its base
  have marked : ∀ {mark body : Grammar ν} (base : Int), IsConsuming mark → IsConsuming body →
      IsConsuming ((mark.seqRight body.atLeastOnce).map (Scanner.numeral base)) :=
    fun _ mark body => .map _ (.seqRightFirst mark (atLeastOnce body.composed).composed)
  have binaryNumeral : IsConsuming (Scanner.binaryNumeral : Grammar ν) :=
    marked 2 (literal (by decide)) (.filter _ digit)
  have octalNumeral : IsConsuming (Scanner.octalNumeral : Grammar ν) :=
    marked 8 (literal (by decide)) (.filter _ digit)
  have hexadecimalNumeral : IsConsuming (Scanner.hexadecimalNumeral : Grammar ν) :=
    marked 16 (.orElse (literal (by decide)) (literal (by decide))) hexadecimalDigit
  have decimalNumeral : IsConsuming (Scanner.decimalNumeral : Grammar ν) :=
    .map _ (atLeastOnce digit.composed)
  simp only [Scanner.parsers, List.forall_mem_cons]
  exact ⟨.token _ _ _, asciiCharacter, .map _ (atLeastOnce asciiCharacter.composed), sign '+',
    sign '-', sign '*', sign '/', sign '=', .map _ (.bothFirst (sign '=') (sign '=').composed),
    sign ' ', sign '\n', literal (by decide), sign '\t', blank, atLeastOnce blank.composed, digit,
    .filter _ digit, binaryNumeral, .filter _ digit, octalNumeral, hexadecimalDigit,
    hexadecimalNumeral, decimalNumeral,
    .orElse (.orElse (.orElse hexadecimalNumeral octalNumeral) binaryNumeral) decimalNumeral,
    .decimal, fun _ member => nomatch member⟩

end IsConsuming

/-- The derived combinators and the scanners of a class that consumes input. -/
structure HasDerived (kind : Grammar ν → Prop) : Prop where
  parsers : ∀ scanner ∈ Scanner.parsers, kind scanner
  character : ∀ wanted, kind (Scanner.character wanted)
  literal : ∀ {content}, content ≠ "" → kind (Scanner.literal content)
  textOfLength : ∀ {count}, 0 < count → kind (Scanner.textOfLength count)
  satisfy : ∀ test expected display, kind (satisfy test expected display)
  atLeastOnce : ∀ {body : Grammar ν}, body.Everywhere IsComposed → kind body.atLeastOnce
  skipAtLeastOnce : ∀ {body : Grammar ν}, body.Everywhere IsComposed → kind body.skipAtLeastOnce
  choice : ∀ {alternatives}, alternatives ≠ [] →
    (∀ alternative ∈ alternatives, kind alternative) → kind (choice alternatives)
  sequence : ∀ {first : Grammar ν} {others}, (∀ part ∈ first :: others, part.Everywhere IsComposed) →
    (∃ part ∈ first :: others, kind part) → kind (sequence first others)
  between : ∀ {opening closing body : Grammar ν},
    (∀ part ∈ [opening, closing, body], part.Everywhere IsComposed) →
    (∃ part ∈ [opening, closing, body], kind part) → kind (between opening closing body)
  separatedOnce : ∀ {item separator : Grammar ν}, kind item →
    separator.Everywhere IsComposed → kind (item.separatedOnce separator)

theorem IsConsuming.hasDerived : HasDerived (IsConsuming : Grammar ν → Prop) where
  parsers := of_mem_parsers
  character := character
  literal := literal
  textOfLength := textOfLength
  satisfy _ _ _ := .token _ _ _
  atLeastOnce := atLeastOnce
  skipAtLeastOnce := skipAtLeastOnce
  choice := choice
  sequence := sequence
  between := between
  separatedOnce := separatedOnce

/-- Every success of a consuming grammar shortens the input.  So a repetition of it that may
match nothing never fails, and one that may not fails just where and as the grammar does. -/
theorem consuming_grammars_progress {rules : ν → Grammar ν}
    (rulesComposed : ∀ name, (rules name).Everywhere IsComposed) (bound : Nat)
    (verbosity : Verbosity) :
    HasDerived (IsConsuming : Grammar ν → Prop) ∧
      ∀ body : Grammar ν, IsConsuming body → ∀ input : Stream,
        let parserOf := parserWithin bound verbosity rules
        (∀ value rest, (parserOf body).Succeeds input value rest → rest.length < input.length) ∧
          ∀ error,
            (¬ (parserOf body.many).Fails input error ∧
              ¬ (parserOf body.skipMany).Fails input error) ∧
            ((parserOf body.atLeastOnce).Fails input error ↔ (parserOf body).Fails input error) ∧
            ((parserOf body.skipAtLeastOnce).Fails input error ↔
              (parserOf body).Fails input error) := by
  refine ⟨IsConsuming.hasDerived, ?_⟩
  intro body consuming input parserOf
  have progresses : (parserOf body).Progresses :=
    consuming.progresses fun name limit =>
      keeps_ruleParser rulesComposed (isRegion_short limit) bound name
  have reported : ∀ {combinator error},
      Parser.Fails (Parser.map Value.list (.repeated 1 combinator (parserOf body))) input error ↔
        (parserOf body).Fails input error :=
    Parser.fails_map_iff.trans progresses.fails_repeated_iff
  refine ⟨progresses input, fun error => ⟨⟨?_, ?_⟩, reported, ?_⟩⟩
  · intro failure
    exact progresses.not_fails_repeated (Parser.fails_map_iff.mp failure)
  · intro failure
    exact progresses.not_fails_repeated
      (Parser.fails_map_iff.mp (Parser.fails_mapM_iff.mp failure))
  · exact Parser.fails_mapM_iff.trans reported

/-- A run of letters that may be empty, and a semicolon behind it. -/
def statement : Grammar Unit := (Grammar.rule ()).seqLeft (Scanner.exactCharacter ';')

/-- The letters, as a rule that may match nothing. -/
def letters : Unit → Grammar Unit := fun _ =>
  ((Scanner.exactCharacter 'a').seqRight (.rule ())).optional

theorem statements_progress :
    (∀ name, (letters name).Everywhere IsComposed) ∧ IsConsuming statement ∧
      (statement.parserWithin 5 .warning letters).Succeeds (.text ['a', 'a', ';', 'b']) .nothing
        (.text ['b']) ∧
      (Stream.text ['b']).length < (Stream.text ['a', 'a', ';', 'b']).length ∧
      ∀ error, ¬ (statement.many.parserWithin 5 .warning letters).Fails
        (.text ['a', 'a', ';', 'b']) error := by
  have composed : ∀ name, (letters name).Everywhere IsComposed :=
    fun _ => ⟨trivial, ⟨trivial, trivial, trivial⟩, trivial⟩
  have consuming : IsConsuming statement := .seqLeftSecond trivial (.token _ _ _)
  have success : (statement.parserWithin 5 .warning letters).Succeeds
      (.text ['a', 'a', ';', 'b']) .nothing (.text ['b']) := rfl
  have progress := (consuming_grammars_progress composed 5 .warning).2 statement consuming
    (.text ['a', 'a', ';', 'b'])
  exact ⟨composed, consuming, success, progress.1 _ _ success,
    fun error => (progress.2 error).1.1⟩

end Grammar

end OrderedChoice
