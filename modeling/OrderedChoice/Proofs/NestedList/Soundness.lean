import OrderedChoice.Proofs.Grammar.Location
import OrderedChoice.Proofs.NestedList.Syntax
import OrderedChoice.Proofs.Scanner.Character
import OrderedChoice.Proofs.Scanner.Numeral

/-!
# Soundness of the grammar of nested lists

The grammar answers on every text, as the rule is only ever entered behind an opening bracket,
and whatever it matches is a list as it may be written.
-/

namespace OrderedChoice

namespace Nested

variable {verbosity : Verbosity} {ruleParsers : Unit → Parser Value} {rounds depth : Nat}
  {text : List Char} {value : Value} {rest : Stream}

/-! ## Answers -/

/-- The texts below a length, as a region. -/
def IsShort (limit : Nat) (input : Stream) : Prop :=
  ∃ text, input = .text text ∧ text.length < limit

theorem isRegion_isShort (limit : Nat) : Stream.IsRegion (IsShort limit) := by
  intro stream short count
  rcases short with ⟨text, rfl, within⟩
  refine ⟨text.drop count, rfl, ?_⟩
  rw [List.length_drop]
  omega

/-- A list is read wherever its items are, and those stand behind a bracket. -/
theorem answers_grammar (answers : ∀ input, IsShort depth input → (ruleParsers ()).Answers input)
    (keeps : (ruleParsers ()).Keeps (IsShort depth)) (short : text.length ≤ depth) :
    (grammar.parser verbosity ruleParsers rounds).Answers (.text text) := by
  have composes := Run.isCompositional_returns
  have itemAnswers : ∀ input, IsShort depth input →
      (item.parser verbosity ruleParsers rounds).Answers input := by
    intro input member
    rcases member with ⟨inner, rfl, within⟩
    exact composes.orElse (Scanner.answers_decimalNumeral inner) fun _ =>
      answers _ ⟨inner, rfl, within⟩
  have itemKeeps : (item.parser verbosity ruleParsers rounds).Keeps (IsShort depth) :=
    Grammar.keeps_of_composed ⟨trivial, ⟨trivial, trivial, trivial⟩, trivial⟩ (fun _ => keeps)
      (isRegion_isShort depth)
  refine composes.seqLeft (composes.seqRight (Scanner.answers_exactCharacter '[' _) ?_)
    fun _ middle _ => Scanner.answers_exactCharacter ']' middle
  intro opened middle success
  rcases Scanner.succeeds_exactCharacter_iff.mp success with ⟨inner, rfl, _, rfl⟩
  exact Grammar.answers_separated itemAnswers itemKeeps
    (fun input _ => Scanner.answers_exactCharacter ',' input)
    (Parser.keeps_token (isRegion_isShort depth) _ _ _) ⟨inner, rfl, short⟩

theorem leavesPlace_grammar : grammar.Everywhere Grammar.LeavesPlace := by
  simp only [grammar, item, Grammar.between, Grammar.separated, Grammar.separatedOnce,
    Grammar.many, Grammar.Everywhere, Grammar.LeavesPlace, Scanner.exactCharacter,
    Scanner.equalTo, Scanner.decimalNumeral, Scanner.digit, Grammar.atLeastOnce, and_self]

theorem composed_grammar : grammar.Everywhere Grammar.IsComposed :=
  leavesPlace_grammar.mono fun _ => Grammar.IsComposed.of_leavesPlace

theorem answers_ruleParser (input : Stream) (short : IsShort depth input) :
    (Grammar.ruleParser verbosity rules rounds depth ()).Answers input := by
  induction depth generalizing input with
  | zero =>
      rcases short with ⟨text, _, within⟩
      exact absurd within (Nat.not_lt_zero _)
  | succ depth deeper =>
      rcases short with ⟨text, rfl, within⟩
      exact answers_grammar deeper (Grammar.keeps_ruleParser (fun _ => composed_grammar)
        (isRegion_isShort depth) depth ()) (Nat.le_of_lt_succ within)

/-! ## Renderings -/

/-- On text the parser matches renderings of lists only. -/
def ReadsLists (parser : Parser Value) : Prop :=
  ∀ {text value rest}, parser.Succeeds (.text text) value rest →
    ∃ items taken after, Rendered [.list items] taken ∧ text = taken ++ after ∧
      value = (Nested.list items).toValue ∧ rest = .text after

theorem rendered_of_item (lists : ReadsLists (ruleParsers ()))
    (success : (item.parser verbosity ruleParsers rounds).Succeeds (.text text) value rest) :
    ∃ nested taken after, Rendered [nested] taken ∧ text = taken ++ after ∧
      value = nested.toValue ∧ rest = .text after := by
  rcases Parser.succeeds_orElse_iff.mp success with success | ⟨_, success⟩
  · rcases Scanner.succeeds_decimalNumeral_iff.mp success with
      ⟨digits, after, areDigits, _, rfl, rfl, left⟩
    exact ⟨_, digits, after, .number areDigits, rfl, rfl, left⟩
  · rcases lists success with ⟨items, taken, after, rendered, rfl, rfl, left⟩
    exact ⟨_, taken, after, rendered, rfl, rfl, left⟩

/-- What the grammar reads behind an item. -/
def further : Grammar Unit := (Scanner.exactCharacter ',').seqRight item

/-- Further items prolong the row in front of them. -/
theorem rendered_of_further (lists : ReadsLists (ruleParsers ())) {values : List Value}
    {input : Stream}
    (row : (further.parser verbosity ruleParsers rounds).Advances input values rest)
    (isText : input = .text text) :
    ∃ items taken after, text = taken ++ after ∧ values = toValues items ∧ rest = .text after ∧
      ∀ first start, Rendered [first] start → Rendered (first :: items) (start ++ taken) := by
  induction row generalizing text with
  | stay input =>
      refine ⟨[], [], text, rfl, rfl, isText, ?_⟩
      intro first start rendered
      rw [List.append_nil]
      exact rendered
  | step success _ _ later =>
      subst isText
      rcases Parser.succeeds_seqRight_iff.mp success with ⟨_, _, marked, followed⟩
      rcases Scanner.succeeds_exactCharacter_iff.mp marked with ⟨behind, rfl, _, rfl⟩
      rcases rendered_of_item lists followed with ⟨nested, taken, _, second, rfl, rfl, rfl⟩
      rcases later rfl with ⟨items, more, after, rfl, rfl, left, prolongs⟩
      refine ⟨nested :: items, ',' :: (taken ++ more), after, ?_, rfl, left, ?_⟩
      · rw [List.cons_append, List.append_assoc]
      · intro first start rendered
        exact .more rendered (prolongs nested taken second)

theorem ReadsLists.grammar (lists : ReadsLists (ruleParsers ())) :
    ReadsLists (grammar.parser verbosity ruleParsers rounds) := by
  intro text value rest success
  rcases Parser.succeeds_seqLeft_iff.mp success with ⟨_, _, success, closed⟩
  rcases Parser.succeeds_seqRight_iff.mp success with ⟨_, _, opened, success⟩
  rcases Scanner.succeeds_exactCharacter_iff.mp opened with ⟨inner, rfl, _, rfl⟩
  rcases Parser.succeeds_orElse_iff.mp success with success | ⟨_, success⟩
  · rcases Parser.succeeds_mapM_iff.mp success with ⟨_, success, prepended⟩
    rcases Grammar.succeeds_both_iff.mp success with ⟨_, _, _, rfl, started, repeated⟩
    rcases Grammar.succeeds_many_iff.mp repeated with ⟨_, rfl, row, _⟩
    rcases rendered_of_item lists started with ⟨first, start, _, rendered, rfl, rfl, rfl⟩
    rcases rendered_of_further lists row rfl with ⟨items, taken, _, rfl, rfl, rfl, prolongs⟩
    rcases Scanner.succeeds_exactCharacter_iff.mp closed with ⟨after, rfl, _, left⟩
    cases prepended
    refine ⟨first :: items, _, after, .list (prolongs first start rendered), ?_, rfl, left⟩
    simp only [List.cons_append, List.append_assoc, List.nil_append]
  · rcases Parser.succeeds_pure_iff.mp success with ⟨rfl, rfl⟩
    rcases Scanner.succeeds_exactCharacter_iff.mp closed with ⟨after, rfl, _, left⟩
    exact ⟨[], _, after, .nothing, rfl, rfl, left⟩

theorem readsLists_ruleParser (depth : Nat) :
    ReadsLists (Grammar.ruleParser verbosity rules rounds depth ()) := by
  induction depth with
  | zero =>
      intro text value rest success
      cases success
  | succ depth deeper => exact deeper.grammar

end Nested

end OrderedChoice
