import Mathlib.Data.List.Basic
import Mathlib.Data.List.TakeWhile
import OrderedChoice.Proofs.Parser.Ending
import OrderedChoice.Scanner.Number

/-!
# What the parser for decimals reads

The pattern for decimals is searched with backtracking, but never has to give anything back:
it takes all the digits, and then a separator with all the digits behind it where there are
any.
-/

namespace OrderedChoice

namespace Scanner

/-- Decimal digits, at least one. -/
structure AreDigits (characters : List Char) : Prop where
  ne_nil : characters ≠ []
  isDigit : ∀ character ∈ characters, character.isDigit = true

/-- A written decimal, with a point or a comma in front of the places when there are any. -/
inductive IsNumeral : List Char → Prop where
  | whole {digits : List Char} (areDigits : AreDigits digits) : IsNumeral digits
  | fraction {digits places : List Char} {separator : Char} (areDigits : AreDigits digits)
      (isSeparator : separator ∈ ['.', ',']) (arePlaces : AreDigits places) :
      IsNumeral (digits ++ separator :: places)

/-- What stands behind the digits at the front, when there are any. -/
def afterDigits? : List Char → Option (List Char)
  | [] => none
  | first :: others => if first.isDigit then some (others.dropWhile Char.isDigit) else none

/-- What stands behind a separator and digits at the front, or everything when they are
missing. -/
def afterFraction : List Char → List Char
  | [] => []
  | first :: others =>
      if first ∈ ['.', ','] then (afterDigits? others).getD (first :: others) else first :: others

/-! ## The search -/

section Searching

open Pattern

/-- The class of digits. -/
def digitSet : CharacterSet := .among false [.range '0' '9']

/-- The class of separators. -/
def separatorSet : CharacterSet := .among false [.range '.' '.', .range ',' ',']

/-- The part of the pattern that takes all digits, at least one. -/
def digitsNode : Node := .repetition (.character digitSet) 1 none true

/-- The part of the pattern for a separator and the digits behind it. -/
def fractionNode : Node := .sequence (.character separatorSet) (.sequence digitsNode .nothing)

theorem contains_digitSet (character : Char) :
    digitSet.contains .text plainFlags character = character.isDigit := by
  have class_eq : digitSet.contains .text plainFlags character =
      (decide ('0'.toNat ≤ character.toNat) && decide (character.toNat ≤ '9'.toNat)) := by
    simp [digitSet, CharacterSet.contains, ClassItem.contains, variants, plainFlags]
  rw [class_eq, Bool.eq_iff_iff]
  simp only [Char.isDigit, Bool.and_eq_true, decide_eq_true_eq, UInt32.le_iff_toNat_le, ge_iff_le]
  exact Iff.rfl

theorem contains_separatorSet (character : Char) :
    separatorSet.contains .text plainFlags character = decide (character ∈ ['.', ',']) := by
  have class_eq : separatorSet.contains .text plainFlags character =
      ((decide ('.'.toNat ≤ character.toNat) && decide (character.toNat ≤ '.'.toNat)) ||
        (decide (','.toNat ≤ character.toNat) && decide (character.toNat ≤ ','.toNat))) := by
    simp [separatorSet, CharacterSet.contains, ClassItem.contains, variants, plainFlags]
  have single : ∀ wanted : Char, wanted.toNat ≤ character.toNat ∧
      character.toNat ≤ wanted.toNat ↔ character = wanted := by
    intro wanted
    rw [← Nat.le_antisymm_iff, Char.toNat_inj, eq_comm]
  rw [class_eq, Bool.eq_iff_iff]
  simp only [Bool.or_eq_true, Bool.and_eq_true, decide_eq_true_eq, single, List.mem_cons,
    List.not_mem_nil, or_false]

variable {next : Spot → Option Spot} {characters : List Char}

/-- At most one more iteration is a choice between one and none. -/
theorem further_once (step : Search) (spot : Spot) :
    Search.further step true (some 1) spot next = (step spot next <|> next spot) := by
  have none_left : ∀ later, Search.further step true (some 0) later next = next later := by
    intro later
    rw [Search.further, if_pos rfl]
  rw [Search.further, if_neg (by decide)]
  simp only [if_true, Option.map_some, Nat.sub_self, none_left, ite_self]

theorem search_character (set : CharacterSet) (previous : Option Char) (first : Char)
    (others : List Char) :
    Node.search .text plainFlags (.character set) ⟨previous, first :: others⟩ next =
      if set.contains .text plainFlags first then next ⟨some first, others⟩ else none := rfl

/-- As whatever follows the digits goes through, no digit is given back. -/
theorem further_digits (continues : ∀ spot, next spot ≠ none) (previous : Option Char)
    (characters : List Char) :
    ∃ last, Search.further (Node.search .text plainFlags (.character digitSet)) true none
      ⟨previous, characters⟩ next = next ⟨last, characters.dropWhile Char.isDigit⟩ := by
  induction characters generalizing previous with
  | nil =>
      refine ⟨previous, ?_⟩
      rw [Search.further]
      rfl
  | cons first others later =>
      rw [Search.further, if_neg (by decide)]
      simp only [if_true]
      rw [search_character, contains_digitSet, List.dropWhile_cons]
      cases digit : first.isDigit with
      | false => exact ⟨previous, rfl⟩
      | true =>
          rcases later (some first) with ⟨last, search⟩
          refine ⟨last, ?_⟩
          have shorter : others.length < (first :: others).length := Nat.lt_succ_self _
          rw [if_pos rfl, if_pos rfl, if_pos shorter, Option.map_none, search]
          rcases Option.ne_none_iff_exists.mp (continues ⟨last, others.dropWhile Char.isDigit⟩) with
            ⟨final, found⟩
          rw [← found]
          rfl

/-- All the digits are taken, and there has to be one. -/
theorem search_digitsNode (continues : ∀ spot, next spot ≠ none) (previous : Option Char)
    (characters : List Char) :
    ∃ last, digitsNode.search .text plainFlags ⟨previous, characters⟩ next =
      (afterDigits? characters).bind fun after => next ⟨last, after⟩ := by
  cases characters with
  | nil => exact ⟨previous, rfl⟩
  | cons first others =>
      rcases further_digits continues (some first) others with ⟨last, search⟩
      refine ⟨last, ?_⟩
      change Node.search .text plainFlags (.character digitSet) ⟨previous, first :: others⟩
        (fun later => Search.further (Node.search .text plainFlags (.character digitSet)) true none
          later next) = _
      rw [search_character, contains_digitSet, afterDigits?, search]
      cases first.isDigit <;> rfl

/-- A separator with digits behind it is taken where there is one. -/
theorem search_fraction (previous : Option Char) (characters : List Char) :
    ∃ last, (Node.repetition fractionNode 0 (some 1) true).search .text plainFlags
      ⟨previous, characters⟩ some = some ⟨last, afterFraction characters⟩ := by
  have choice : (Node.repetition fractionNode 0 (some 1) true).search .text plainFlags
      ⟨previous, characters⟩ some =
        (fractionNode.search .text plainFlags ⟨previous, characters⟩ some <|>
          some ⟨previous, characters⟩) :=
    further_once _ _
  rw [choice]
  cases characters with
  | nil => exact ⟨previous, rfl⟩
  | cons first others =>
      have taken : fractionNode.search .text plainFlags ⟨previous, first :: others⟩ some =
          if separatorSet.contains .text plainFlags first then
            digitsNode.search .text plainFlags ⟨some first, others⟩ some else none := rfl
      rcases search_digitsNode (fun spot => Option.some_ne_none spot) (some first) others with
        ⟨last, digits⟩
      rw [taken, contains_separatorSet, digits, afterFraction]
      by_cases separator : first ∈ ['.', ',']
      · rw [if_pos separator, if_pos (decide_eq_true separator)]
        cases afterDigits? others with
        | none => exact ⟨previous, rfl⟩
        | some after => exact ⟨last, rfl⟩
      · rw [if_neg separator, if_neg (by simpa using separator)]
        exact ⟨previous, rfl⟩

/-- The pattern takes digits and a fraction, each where it is there. -/
theorem matchLength?_decimalPattern (characters : List Char) :
    decimalPattern.matchLength? characters = (afterDigits? characters).map fun after =>
      characters.length - (afterFraction after).length := by
  have continues : ∀ spot, (Node.repetition fractionNode 0 (some 1) true).search .text plainFlags
      spot some ≠ none := by
    intro spot
    rcases search_fraction spot.previous spot.rest with ⟨last, search⟩
    exact fun missing => Option.some_ne_none _ (search.symm.trans missing)
  rcases search_digitsNode continues none characters with ⟨last, digits⟩
  change (digitsNode.search .text plainFlags ⟨none, characters⟩ ((Node.repetition fractionNode 0
    (some 1) true).search .text plainFlags · some)).map _ = _
  rw [digits]
  cases afterDigits? characters with
  | none => rfl
  | some after =>
      rcases search_fraction last after with ⟨final, search⟩
      change ((Node.repetition fractionNode 0 (some 1) true).search .text plainFlags ⟨last, after⟩
        some).map _ = _
      rw [search]
      rfl

/-- The tree that is searched is the one that the text of the pattern is read as. -/
theorem ofText?_decimalPattern :
    Pattern.ofText? "[0-9]+([.,][0-9]+)?" plainFlags .text = some decimalPattern := by cbv

end Searching

/-! ## The text that is taken -/

variable {characters : List Char}

/-- The text goes on with nothing that a decimal could take. -/
def EndsNumeral (after : List Char) : Prop :=
  ∀ first, after.head? = some first → first.isDigit = false ∧ first ∉ ['.', ',']

theorem AreDigits.of_afterDigits? {after : List Char} (taken : afterDigits? characters = some after) :
    ∃ digits, AreDigits digits ∧ characters = digits ++ after := by
  cases characters with
  | nil => cases taken
  | cons first others =>
      rw [afterDigits?] at taken
      split at taken
      · rename_i digit
        cases taken
        refine ⟨first :: others.takeWhile Char.isDigit, ⟨List.cons_ne_nil _ _, ?_⟩, ?_⟩
        · intro character member
          rcases List.mem_cons.mp member with rfl | member
          · exact digit
          · exact List.mem_takeWhile_imp member
        · rw [List.cons_append, List.takeWhile_append_dropWhile]
      · cases taken

theorem AreDigits.afterDigits?_append {digits : List Char} (areDigits : AreDigits digits)
    (more : List Char) : afterDigits? (digits ++ more) = some (more.dropWhile Char.isDigit) := by
  rcases List.exists_cons_of_ne_nil areDigits.ne_nil with ⟨first, others, rfl⟩
  rw [List.cons_append, afterDigits?, if_pos (areDigits.isDigit first List.mem_cons_self),
    List.dropWhile_append_of_pos]
  intro character member
  exact areDigits.isDigit character (List.mem_cons_of_mem _ member)

theorem dropWhile_isDigit_eq_self {after : List Char}
    (ends : ∀ first, after.head? = some first → first.isDigit = false) :
    after.dropWhile Char.isDigit = after := by
  cases after with
  | nil => rfl
  | cons next more => rw [List.dropWhile_cons, if_neg (by simp [ends next rfl])]

theorem AreDigits.afterDigits?_eq {digits after : List Char} (areDigits : AreDigits digits)
    (ends : ∀ first, after.head? = some first → first.isDigit = false) :
    afterDigits? (digits ++ after) = some after := by
  rw [areDigits.afterDigits?_append, dropWhile_isDigit_eq_self ends]

/-- No digit is left behind the digits at the front. -/
theorem ends_of_afterDigits? {after : List Char} (taken : afterDigits? characters = some after) :
    ∀ first, after.head? = some first → first.isDigit = false := by
  intro first head
  rcases AreDigits.of_afterDigits? taken with ⟨digits, areDigits, rfl⟩
  rw [areDigits.afterDigits?_append, Option.some.injEq] at taken
  have left := List.head?_dropWhile_not Char.isDigit after
  rw [taken, head] at left
  exact left

theorem isDigit_separator {separator : Char} (isSeparator : separator ∈ ['.', ',']) :
    separator.isDigit = false := by
  rcases List.mem_pair.mp isSeparator with rfl | rfl
  · rfl
  · rfl

/-- Digits end in front of a separator. -/
theorem AreDigits.takeWhile_append {digits others : List Char} {separator : Char}
    (areDigits : AreDigits digits) (isSeparator : separator ∈ ['.', ',']) :
    (digits ++ separator :: others).takeWhile Char.isDigit = digits := by
  rw [List.takeWhile_append_of_pos areDigits.isDigit,
    List.takeWhile_cons_of_neg (by simp [isDigit_separator isSeparator]), List.append_nil]

theorem AreDigits.dropWhile_append {digits others : List Char} {separator : Char}
    (areDigits : AreDigits digits) (isSeparator : separator ∈ ['.', ',']) :
    (digits ++ separator :: others).dropWhile Char.isDigit = separator :: others := by
  rw [List.dropWhile_append_of_pos areDigits.isDigit,
    List.dropWhile_cons_of_neg (by simp [isDigit_separator isSeparator])]

/-- Numerals are just what is read as a decimal. -/
theorem isWritten_iff : Decimal.isWritten characters = true ↔ IsNumeral characters := by
  rw [Decimal.isWritten, Bool.and_eq_true, Bool.not_eq_true', List.isEmpty_eq_false_iff]
  constructor
  · intro written
    rcases written with ⟨some, behind⟩
    have whole : AreDigits (characters.takeWhile Char.isDigit) :=
      ⟨some, fun _ member => List.mem_takeWhile_imp member⟩
    rw [← List.takeWhile_append_dropWhile (p := Char.isDigit) (l := characters)]
    cases left : characters.dropWhile Char.isDigit with
    | nil =>
        rw [List.append_nil]
        exact .whole whole
    | cons separator places =>
        rw [left] at behind
        simp only [Bool.and_eq_true, Bool.or_eq_true, beq_iff_eq, Bool.not_eq_true',
          List.isEmpty_eq_false_iff, List.all_eq_true] at behind
        rcases behind with ⟨⟨isSeparator, some⟩, areDigits⟩
        exact .fraction whole (List.mem_pair.mpr isSeparator) ⟨some, areDigits⟩
  · intro isNumeral
    cases isNumeral with
    | whole areDigits =>
        rw [List.takeWhile_eq_self_iff.mpr areDigits.isDigit,
          List.dropWhile_eq_nil_iff.mpr areDigits.isDigit]
        exact ⟨areDigits.ne_nil, rfl⟩
    | @fraction digits places separator areDigits isSeparator arePlaces =>
        rw [areDigits.takeWhile_append isSeparator, areDigits.dropWhile_append isSeparator]
        refine ⟨areDigits.ne_nil, ?_⟩
        simp only [Bool.and_eq_true, Bool.or_eq_true, beq_iff_eq, Bool.not_eq_true',
          List.isEmpty_eq_false_iff, List.all_eq_true]
        exact ⟨⟨List.mem_pair.mp isSeparator, arePlaces.ne_nil⟩, arePlaces.isDigit⟩

/-- What the pattern takes is a numeral. -/
theorem IsNumeral.of_afterDigits? {after : List Char} (taken : afterDigits? characters = some after) :
    ∃ numeral, IsNumeral numeral ∧ characters = numeral ++ afterFraction after := by
  rcases AreDigits.of_afterDigits? taken with ⟨digits, areDigits, rfl⟩
  cases after with
  | nil => exact ⟨digits, .whole areDigits, rfl⟩
  | cons first others =>
      rw [afterFraction]
      split
      · rename_i isSeparator
        cases behind : afterDigits? others with
        | none => exact ⟨digits, .whole areDigits, rfl⟩
        | some final =>
            rcases AreDigits.of_afterDigits? behind with ⟨places, arePlaces, rfl⟩
            refine ⟨_, .fraction areDigits isSeparator arePlaces, ?_⟩
            rw [Option.getD_some, List.append_assoc, List.cons_append]
      · exact ⟨digits, .whole areDigits, rfl⟩

/-- A numeral is taken as a whole. -/
theorem IsNumeral.afterDigits?_eq {numeral after : List Char} (isNumeral : IsNumeral numeral)
    (ends : EndsNumeral after) :
    ∃ behind, afterDigits? (numeral ++ after) = some behind ∧ afterFraction behind = after := by
  cases isNumeral with
  | whole areDigits =>
      refine ⟨after, areDigits.afterDigits?_eq fun first head => (ends first head).1, ?_⟩
      cases after with
      | nil => rfl
      | cons first others => rw [afterFraction, if_neg (ends first rfl).2]
  | @fraction digits places separator areDigits isSeparator arePlaces =>
      refine ⟨separator :: (places ++ after), ?_, ?_⟩
      · rw [List.append_assoc, List.cons_append]
        refine areDigits.afterDigits?_eq ?_
        intro first head
        cases head
        exact isDigit_separator isSeparator
      · rw [afterFraction, if_pos isSeparator,
          arePlaces.afterDigits?_eq fun first head => (ends first head).1]
        rfl

/-! ## The parser -/

section Parsing

variable {ν : Type} {verbosity : Verbosity} {rules : ν → Parser Value} {rounds : Nat}
  {rest : Stream} {value : Value}

theorem matching_decimalPattern (characters : List Char) :
    Parser.matching decimalPattern (.text characters) =
      Parser.matched decimalPattern (.text characters)
        ((afterDigits? characters).map fun after =>
          characters.length - (afterFraction after).length) := by
  rw [← matchLength?_decimalPattern]
  rfl

/-- The pattern takes what stands in front of the rest that is described. -/
theorem succeeds_matching {middle numeral : List Char} (taken : afterDigits? characters = some middle)
    (split : characters = numeral ++ afterFraction middle) :
    (Parser.matching decimalPattern).Succeeds (.text characters) (.text (String.ofList numeral))
      (.text (afterFraction middle)) := by
  have length : characters.length - (afterFraction middle).length = numeral.length := by
    rw [split, List.length_append, Nat.add_sub_cancel]
  rw [Parser.Succeeds, matching_decimalPattern, taken, Option.map_some, length]
  change Except.ok (Result.success (Value.text (String.ofList (characters.take numeral.length)))
    (.text (characters.drop numeral.length))) = _
  rw [split, List.take_left, List.drop_left]

/-- The text that the pattern matches is a numeral. -/
theorem IsNumeral.of_matching
    (matched : (Parser.matching decimalPattern).Succeeds (.text characters) value rest) :
    ∃ numeral after, IsNumeral numeral ∧ characters = numeral ++ after ∧
      value = .text (String.ofList numeral) ∧ rest = .text after := by
  cases taken : afterDigits? characters with
  | none =>
      rw [Parser.Succeeds, matching_decimalPattern, taken] at matched
      cases matched
  | some middle =>
      rcases IsNumeral.of_afterDigits? taken with ⟨numeral, isNumeral, split⟩
      rcases matched.unique (succeeds_matching taken split) with ⟨rfl, rfl⟩
      exact ⟨numeral, _, isNumeral, split, rfl, rfl⟩

/-- A numeral is what can be converted, so nothing that the pattern takes is refused. -/
theorem IsNumeral.floatingValue {numeral : List Char} (isNumeral : IsNumeral numeral) :
    Scanner.floatingValue (.text (String.ofList numeral)) = .ok (.float (Decimal.read numeral)) := by
  change (if Decimal.isWritten (String.ofList numeral).toList then
    Except.ok (Value.float (Decimal.read (String.ofList numeral).toList)) else _) = _
  rw [String.toList_ofList, if_pos (isWritten_iff.mpr isNumeral)]

theorem IsNumeral.of_decimal
    (success : ((decimal : Grammar ν).parser verbosity rules rounds).Succeeds (.text characters)
      value rest) :
    ∃ numeral after, IsNumeral numeral ∧ characters = numeral ++ after ∧
      value = .float (Decimal.read numeral) ∧ rest = .text after := by
  rcases Parser.succeeds_mapM_iff.mp success with ⟨content, matched, read⟩
  rcases IsNumeral.of_matching matched with ⟨numeral, after, isNumeral, split, rfl, left⟩
  rw [isNumeral.floatingValue] at read
  cases read
  exact ⟨numeral, after, isNumeral, split, rfl, left⟩

theorem IsNumeral.decimal {numeral after : List Char} (isNumeral : IsNumeral numeral)
    (ends : EndsNumeral after) :
    ((Scanner.decimal : Grammar ν).parser verbosity rules rounds).Succeeds
      (.text (numeral ++ after)) (.float (Decimal.read numeral)) (.text after) := by
  rcases isNumeral.afterDigits?_eq ends with ⟨middle, taken, left⟩
  have matched := succeeds_matching taken (congrArg (numeral ++ ·) left.symm)
  rw [left] at matched
  exact Parser.succeeds_mapM_iff.mpr ⟨.text (String.ofList numeral), matched, isNumeral.floatingValue⟩

theorem fails_decimal (other : ∀ first, characters.head? = some first → first.isDigit = false) :
    ∃ error, ((decimal : Grammar ν).parser verbosity rules rounds).Fails (.text characters)
      error := by
  have missing : afterDigits? characters = none := by
    cases characters with
    | nil => rfl
    | cons first others => rw [afterDigits?, if_neg (by simp [other first rfl])]
  have unmatched : ∃ error, (Parser.matching decimalPattern).Fails (.text characters) error := by
    unfold Parser.Fails
    rw [matching_decimalPattern, missing]
    exact ⟨_, rfl⟩
  exact unmatched.imp fun _ failed => Parser.fails_mapM_iff.mpr failed

end Parsing

end Scanner

end OrderedChoice
