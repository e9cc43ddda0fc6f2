import OrderedChoice.Proofs.Grammar.Composition
import OrderedChoice.Proofs.Grammar.Consumption
import OrderedChoice.Proofs.Parser.Answer
import OrderedChoice.Proofs.Parser.Fault
import OrderedChoice.Proofs.Scanner.Text

/-!
# Grammars for text

The scanners call functions that are not made for every value: they ask for the characters of
an element, turn characters and texts into numbers, join texts and take pairs apart.  On text
these functions are only ever given what they are made for, whatever the scanners are combined
to, so a parse of a text that ends returns a result.
-/

namespace OrderedChoice

namespace Grammar

open OrderedChoice.Stream (IsText isRegion_isText)
open Scanner (IsNumeral)

variable {ν : Type} {verbosity : Verbosity} {rounds : Nat} {grammar : Grammar ν}

/-! ## What functions are made for -/

/-- The function belongs to a scanner or to a derived combinator, and the value is one that it is
made for.  Elements are inspected one character at a time, only numerals are read as decimals,
only integers are compared and put together, and only texts are joined. -/
inductive Fits : {β : Type} → (Value → Except Fault β) → Value → Prop where
  | anyCharacter (character : Char) :
      Fits (fun element => return match element with | .nothing => none | element => some element)
        (Value.ofChar character)
  | equalTo (wanted : Value) (character : Char) :
      Fits (fun element => return if element == wanted then some element else none)
        (Value.ofChar character)
  | isAscii (character : Char) :
      Fits (fun element => do
          if Scanner.isAscii (← Scanner.characters element) then return none
          else return some (ParseError.unexpected (.text "ascii") element none))
        (Value.ofChar character)
  | decimalValue (character : Char) : Fits Scanner.decimalValue (Value.ofChar character)
  | alphanumericValue (character : Char) : Fits Scanner.alphanumericValue (Value.ofChar character)
  | checkRange (low high : Int) (expected : String) (number : Int) :
      Fits (Scanner.checkRange low high expected) (.int number)
  | numeral (base : Int) (digits : List Int) :
      Fits (Scanner.numeral base) (.list (digits.map .int))
  | floatingValue {numeral : List Char} (isNumeral : IsNumeral numeral) :
      Fits Scanner.floatingValue (.text (String.ofList numeral))
  | join (contents : List String) : Fits Scanner.join (.list (contents.map .text))
  | joinPair (first second : String) : Fits Scanner.joinPair (.tuple [.text first, .text second])
  | prepend (first : Value) (others : List Value) :
      Fits Grammar.prepend (.tuple [first, .list others])
  | flatten {levels : Nat} {value : Value} {items : List Value}
      (nested : unnest? levels value = some items) : Fits (Grammar.flatten levels) value
  | forget (value : Value) : Fits (fun _ => return Value.nothing) value

theorem integers?_map (digits : List Int) :
    Scanner.integers? (digits.map .int) = some digits := by
  induction digits with
  | nil => rfl
  | cons first others later =>
      rw [List.map_cons, Scanner.integers?, later]
      rfl

/-- A function returns for everything that it is made for. -/
theorem Fits.returns {β : Type} {f : Value → Except Fault β} {value : Value}
    (fits : Fits f value) : ∃ result, f value = .ok result := by
  cases fits with
  | anyCharacter | equalTo | joinPair | prepend | forget => exact ⟨_, rfl⟩
  | floatingValue isNumeral => exact ⟨_, isNumeral.floatingValue⟩
  | isAscii character =>
      change ∃ result, (if Scanner.isAscii (String.singleton character).toList then Except.ok none
        else Except.ok (some _)) = Except.ok result
      split
      · exact ⟨none, rfl⟩
      · exact ⟨some _, rfl⟩
  | decimalValue character => exact ⟨_, Scanner.decimalValue_ofChar character⟩
  | alphanumericValue character => exact ⟨_, Scanner.alphanumericValue_ofChar character⟩
  | checkRange low high expected number =>
      by_cases inRange : low ≤ number ∧ number ≤ high
      · exact ⟨none, if_pos inRange⟩
      · exact ⟨some _, if_neg inRange⟩
  | numeral base digits =>
      refine ⟨.int (Decimal.ofDigits base digits), ?_⟩
      rw [Scanner.numeral, integers?_map]
      rfl
  | join contents =>
      refine ⟨.text (String.join contents), ?_⟩
      rw [Scanner.join, Scanner.texts_map]
      rfl
  | @flatten levels value items nested =>
      refine ⟨.tuple items, ?_⟩
      rw [Grammar.flatten, nested]
      rfl

/-- On text this part only calls functions on what they are made for. -/
def IsFit : Grammar ν → Prop
  | .token select _ _ => ∀ input : Stream, input.IsText → ∀ element,
      input.head? = some element → Fits select element
  | .matching pattern => pattern.alphabet = .text
  | .map f body => ∀ (verbosity : Verbosity) (rules : ν → Parser Value) (rounds : Nat),
      (body.parser verbosity rules rounds).Yields (Fits f)
  | .filter check body => ∀ (verbosity : Verbosity) (rules : ν → Parser Value) (rounds : Nat),
      (body.parser verbosity rules rounds).Yields (Fits check)
  | .chainLeftBy _ _ _ | .chainRightBy _ _ _ | .fault _ | .custom _ _ => False
  | _ => True

/-! ## Fit grammars -/

theorem isFit_token {select : Value → Except Fault (Option Value)}
    (fits : ∀ character, Fits select (Value.ofChar character)) (expected : Value)
    (display : Value → String) : (token select expected display : Grammar ν).Everywhere IsFit := by
  intro input isText element head
  rcases isText.exists_ofChar head with ⟨character, rfl⟩
  exact fits character

/-- A row of digits is put together to a numeral. -/
theorem isFit_numeral {digit : Grammar ν} (base : Int)
    (yields : ∀ (verbosity : Verbosity) (rules : ν → Parser Value) (rounds : Nat),
      (digit.parser verbosity rules rounds).Yields Scanner.IsInteger)
    (kept : ∀ (verbosity : Verbosity) (rules : ν → Parser Value) (rounds : Nat),
      (digit.parser verbosity rules rounds).Keeps IsText)
    (fit : digit.Everywhere IsFit) :
    (digit.atLeastOnce.map (Scanner.numeral base)).Everywhere IsFit := by
  refine ⟨?_, trivial, fit⟩
  intro verbosity rules rounds input isText value rest success
  rcases Scanner.exists_digits (yields _ _ _) (kept _ _ _) isText success with ⟨digits, rfl⟩
  exact .numeral base digits

theorem isFit_markedNumeral {mark digit : Grammar ν} (base : Int)
    (yields : ∀ (verbosity : Verbosity) (rules : ν → Parser Value) (rounds : Nat),
      (digit.parser verbosity rules rounds).Yields Scanner.IsInteger)
    (kept : ∀ (verbosity : Verbosity) (rules : ν → Parser Value) (rounds : Nat),
      (digit.parser verbosity rules rounds).Keeps IsText)
    (markKept : ∀ (verbosity : Verbosity) (rules : ν → Parser Value) (rounds : Nat),
      (mark.parser verbosity rules rounds).Keeps IsText)
    (markFit : mark.Everywhere IsFit) (fit : digit.Everywhere IsFit) :
    ((mark.seqRight digit.atLeastOnce).map (Scanner.numeral base)).Everywhere IsFit := by
  refine ⟨?_, trivial, markFit, trivial, fit⟩
  intro verbosity rules rounds input isText value rest success
  rcases Scanner.exists_digits_behind (yields _ _ _) (kept _ _ _) (markKept _ _ _) isText success
    with ⟨digits, rfl⟩
  exact .numeral base digits

theorem isFit_exactCharacter (character : Char) :
    (Scanner.exactCharacter character : Grammar ν).Everywhere IsFit :=
  isFit_token (.equalTo _) _ _

theorem isFit_asciiText : (Scanner.asciiText : Grammar ν).Everywhere IsFit := by
  have asciiFit : (Scanner.asciiCharacter : Grammar ν).Everywhere IsFit := by
    refine ⟨?_, isFit_token .anyCharacter _ _⟩
    intro verbosity rules rounds
    refine Scanner.yields_anyCharacter.mono ?_
    rintro _ ⟨character, rfl⟩
    exact .isAscii character
  refine ⟨?_, trivial, asciiFit⟩
  intro verbosity rules rounds input isText value rest success
  rcases succeeds_atLeastOnce_iff.mp success with ⟨values, rfl, _, row, _⟩
  have characters := Scanner.yields_asciiCharacter.advances Scanner.keeps_asciiCharacter row isText
  rcases Scanner.exists_texts_of_characters characters with ⟨contents, rfl⟩
  exact .join contents

theorem isFit_doubleEquals : (Scanner.doubleEquals : Grammar ν).Everywhere IsFit := by
  refine ⟨?_, trivial, isFit_exactCharacter '=', isFit_exactCharacter '='⟩
  intro verbosity rules rounds input isText value rest success
  rcases succeeds_both_iff.mp success with ⟨first, second, middle, rfl, started, followed⟩
  have kept : ((Scanner.equalsSign : Grammar ν).parser verbosity rules rounds).Keeps IsText :=
    Parser.keeps_token isRegion_isText _ _ _
  rcases Scanner.yields_exactCharacter '=' input isText first middle started with ⟨left, rfl⟩
  rcases Scanner.yields_exactCharacter '=' middle (kept input isText _ middle started) second rest
    followed with ⟨right, rfl⟩
  exact .joinPair _ _

theorem isFit_decimal : (Scanner.decimal : Grammar ν).Everywhere IsFit := by
  refine ⟨?_, rfl⟩
  intro verbosity rules rounds input isText value rest success
  rcases isText with ⟨characters, rfl⟩
  rcases IsNumeral.of_matching success with ⟨numeral, _, isNumeral, _, rfl, _⟩
  exact .floatingValue isNumeral

theorem isFit_blank : (Scanner.blank : Grammar ν).Everywhere IsFit := by
  have mark : ∀ character, (Scanner.exactCharacter character : Grammar ν).Everywhere IsFit :=
    isFit_exactCharacter
  exact ⟨trivial, ⟨trivial, ⟨trivial, mark ' ', mark '\n'⟩, trivial⟩, mark '\t'⟩

theorem isFit_digit : (Scanner.digit : Grammar ν).Everywhere IsFit :=
  isFit_token .decimalValue _ _

/-- The digits of a base below ten are integers in a range. -/
theorem isFit_digitBetween (low high : Int) (expected : String) :
    (Scanner.digit.filter (Scanner.checkRange low high expected) : Grammar ν).Everywhere IsFit := by
  refine ⟨fun verbosity rules rounds => Scanner.yields_digit.mono ?_, isFit_digit⟩
  rintro _ ⟨number, rfl⟩
  exact .checkRange low high expected number

theorem isFit_hexadecimalDigit : (Scanner.hexadecimalDigit : Grammar ν).Everywhere IsFit := by
  refine ⟨fun verbosity rules rounds => Scanner.yields_alphanumeric.mono ?_,
    fun verbosity rules rounds => Scanner.yields_anyCharacter.mono ?_,
    isFit_token .anyCharacter _ _⟩
  · rintro _ ⟨number, rfl⟩
    exact .checkRange 0 15 "0 to 15" number
  · rintro _ ⟨character, rfl⟩
    exact .alphanumericValue character

theorem isFit_binaryNumeral : (Scanner.binaryNumeral : Grammar ν).Everywhere IsFit :=
  isFit_markedNumeral 2 (fun _ _ _ => Scanner.yields_digit.filter _)
    (fun _ _ _ => Scanner.keeps_digit.filter _) (fun _ _ _ => Scanner.keeps_literal "0b") trivial
    (isFit_digitBetween 0 1 "0 or 1")

theorem isFit_octalNumeral : (Scanner.octalNumeral : Grammar ν).Everywhere IsFit :=
  isFit_markedNumeral 8 (fun _ _ _ => Scanner.yields_digit.filter _)
    (fun _ _ _ => Scanner.keeps_digit.filter _) (fun _ _ _ => Scanner.keeps_literal "0o") trivial
    (isFit_digitBetween 0 7 "0 to 7")

theorem isFit_hexadecimalNumeral : (Scanner.hexadecimalNumeral : Grammar ν).Everywhere IsFit := by
  refine isFit_markedNumeral 16 (fun _ _ _ => Scanner.yields_hexadecimalDigit)
    (fun _ _ _ => Scanner.keeps_hexadecimalDigit) ?_ ⟨trivial, trivial, trivial⟩
    isFit_hexadecimalDigit
  intro verbosity rules rounds
  exact (Scanner.keeps_literal "0x").orElse (Scanner.keeps_literal "0X")

theorem isFit_decimalNumeral : (Scanner.decimalNumeral : Grammar ν).Everywhere IsFit :=
  isFit_numeral 10 (fun _ _ _ => Scanner.yields_digit) (fun _ _ _ => Scanner.keeps_digit)
    isFit_digit

theorem isFit_of_mem_parsers :
    ∀ scanner ∈ (Scanner.parsers : List (Grammar ν)), scanner.Everywhere IsFit := by
  have mark : ∀ character, (Scanner.exactCharacter character : Grammar ν).Everywhere IsFit :=
    isFit_exactCharacter
  have integer : (Scanner.integer : Grammar ν).Everywhere IsFit :=
    ⟨trivial, ⟨trivial, ⟨trivial, isFit_hexadecimalNumeral, isFit_octalNumeral⟩,
      isFit_binaryNumeral⟩, isFit_decimalNumeral⟩
  simp only [Scanner.parsers, List.forall_mem_cons]
  exact ⟨isFit_token .anyCharacter _ _, isFit_asciiText.2.2, isFit_asciiText, mark '+', mark '-',
    mark '*', mark '/', mark '=', isFit_doubleEquals, mark ' ', mark '\n', trivial, mark '\t',
    isFit_blank, ⟨trivial, isFit_blank⟩, isFit_digit, isFit_digitBetween 0 1 "0 or 1",
    isFit_binaryNumeral, isFit_digitBetween 0 7 "0 to 7", isFit_octalNumeral,
    isFit_hexadecimalDigit, isFit_hexadecimalNumeral, isFit_decimalNumeral, integer,
    isFit_decimal, fun _ member => absurd member List.not_mem_nil⟩

/-- A written pattern that compiles is one for text. -/
theorem isFit_of_regex {source : String} {flags : Pattern.Flags}
    (compiles : Scanner.regex? (.text source) flags = .ok grammar) : grammar.Everywhere IsFit := by
  unfold Scanner.regex? Pattern.ofText? at compiles
  dsimp only at compiles
  cases read : Pattern.Node.ofText? source with
  | none =>
      rw [read] at compiles
      cases compiles
  | some root =>
      rw [read] at compiles
      cases compiles
      exact rfl

/-! ## Grammars of scanners -/

/-- The grammars that the scanners for text make, put together by sequence, choice, repetition,
predicates and rules. -/
inductive IsTextual : Grammar ν → Prop where
  | scanner {scanner : Grammar ν} (member : scanner ∈ Scanner.parsers) : IsTextual scanner
  | character (content : String) : IsTextual (Scanner.character (.text content))
  | literal (content : String) : IsTextual (Scanner.literal content)
  | textOfLength (count : Nat) : IsTextual (Scanner.textOfLength count)
  | regex {source : String} {flags : Pattern.Flags} {grammar : Grammar ν}
      (compiles : Scanner.regex? (.text source) flags = .ok grammar) : IsTextual grammar
  | endOfInput : IsTextual .endOfInput
  | rule (name : ν) : IsTextual (.rule name)
  | both {first second : Grammar ν} (left : IsTextual first) (right : IsTextual second) :
      IsTextual (.both first second)
  | seqRight {first second : Grammar ν} (left : IsTextual first) (right : IsTextual second) :
      IsTextual (.seqRight first second)
  | seqLeft {first second : Grammar ν} (left : IsTextual first) (right : IsTextual second) :
      IsTextual (.seqLeft first second)
  | orElse {first second : Grammar ν} (left : IsTextual first) (right : IsTextual second) :
      IsTextual (.orElse first second)
  | choice {alternatives : List (Grammar ν)}
      (all : ∀ alternative ∈ alternatives, IsTextual alternative) :
      IsTextual (Grammar.choice alternatives)
  | between {opening closing body : Grammar ν} (first : IsTextual opening)
      (last : IsTextual closing) (middle : IsTextual body) :
      IsTextual (Grammar.between opening closing body)
  | many {body : Grammar ν} (part : IsTextual body) : IsTextual body.many
  | atLeastOnce {body : Grammar ν} (part : IsTextual body) : IsTextual body.atLeastOnce
  | exactly {body : Grammar ν} (count : Nat) (part : IsTextual body) :
      IsTextual (.exactly count body)
  | optional {body : Grammar ν} (part : IsTextual body) : IsTextual body.optional
  | skipMany {body : Grammar ν} (part : IsTextual body) : IsTextual body.skipMany
  | separated {item separator : Grammar ν} (items : IsTextual item)
      (separators : IsTextual separator) : IsTextual (item.separated separator)
  | lookAhead {body : Grammar ν} (part : IsTextual body) : IsTextual (.lookAhead body)
  | notFollowedBy {body : Grammar ν} (part : IsTextual body) : IsTextual (.notFollowedBy body)
  | sequence {first : Grammar ν} {others : List (Grammar ν)} (head : IsTextual first)
      (tail : ∀ other ∈ others, IsTextual other) : IsTextual (Grammar.sequence first others)

/-- Whatever the grammar matches holds pairs nested so deep. -/
def Nests (levels : Nat) (grammar : Grammar ν) : Prop :=
  ∀ (verbosity : Verbosity) (rules : ν → Parser Value) (rounds : Nat),
    (grammar.parser verbosity rules rounds).Yields fun value =>
      ∃ items, unnest? levels value = some items

theorem Nests.foldl_both {levels : Nat} {others : List (Grammar ν)} (nests : grammar.Nests levels) :
    (others.foldl .both grammar).Nests (levels + others.length) := by
  induction others generalizing grammar levels with
  | nil => exact nests
  | cons other others later =>
      rw [List.foldl_cons, List.length_cons, Nat.add_comm others.length, ← Nat.add_assoc]
      refine later ?_
      intro verbosity rules rounds input isText value rest success
      rcases succeeds_both_iff.mp success with ⟨earlier, last, middle, rfl, started, _⟩
      rcases nests verbosity rules rounds input isText earlier middle started with ⟨items, nested⟩
      exact ⟨items ++ [last], by rw [unnest?, nested, Option.map_some]⟩

theorem IsTextual.fit (textual : IsTextual grammar) : grammar.Everywhere IsFit := by
  induction textual with
  | scanner member => exact isFit_of_mem_parsers _ member
  | character content => exact isFit_token (.equalTo _) _ _
  | literal content => exact trivial
  | textOfLength count =>
      refine ⟨?_, trivial, isFit_token .anyCharacter _ _⟩
      intro verbosity rules rounds input isText value rest success
      rcases Parser.succeeds_map_iff.mp success with ⟨values, repeated, rfl⟩
      have characters := Scanner.yields_anyCharacter.exactly Scanner.keeps_anyCharacter repeated
        isText
      rcases Scanner.exists_texts_of_characters characters with ⟨contents, rfl⟩
      exact .join contents
  | regex compiles => exact isFit_of_regex compiles
  | endOfInput | rule => exact trivial
  | both _ _ left right | seqRight _ _ left right | seqLeft _ _ left right
  | orElse _ _ left right => exact ⟨trivial, left, right⟩
  | choice _ all => exact everywhere_choice trivial (fun _ _ => trivial) all
  | between _ _ _ first last middle => exact ⟨trivial, ⟨trivial, first, middle⟩, last⟩
  | many _ part | atLeastOnce _ part | exactly _ _ part | lookAhead _ part
  | notFollowedBy _ part => exact ⟨trivial, part⟩
  | optional _ part => exact ⟨trivial, part, trivial⟩
  | skipMany _ part => exact ⟨fun _ _ _ _ _ value _ _ => .forget value, trivial, part⟩
  | separated _ _ items separators =>
      refine ⟨trivial, ⟨?_, trivial, items, trivial, trivial, separators, items⟩, trivial⟩
      intro verbosity rules rounds input isText value rest success
      rcases succeeds_both_iff.mp success with ⟨first, more, middle, rfl, _, repeated⟩
      rcases succeeds_many_iff.mp repeated with ⟨others, rfl, _⟩
      exact .prepend first others
  | @sequence first others _ _ head tail =>
      have nests : first.Nests 0 := fun _ _ _ _ _ value _ _ => ⟨[value], rfl⟩
      refine ⟨?_, everywhere_foldl ?_ head tail⟩
      · intro verbosity rules rounds input isText value rest success
        rcases nests.foldl_both verbosity rules rounds input isText value rest success with
          ⟨items, nested⟩
        rw [Nat.zero_add] at nested
        exact .flatten nested
      · intro left right leftFit rightFit
        exact ⟨trivial, leftFit, rightFit⟩

end Grammar

end OrderedChoice
