import OrderedChoice.Proofs.NestedList.Soundness

/-!
# Reading nested lists

A list is read as it is written, whatever stands behind it.  Together with soundness this says
that parsing a whole text gives a list exactly when the text is a rendering of the list, and
reading undoes printing.
-/

namespace OrderedChoice

namespace Nested

variable {verbosity : Verbosity} {ruleParsers : Unit → Parser Value} {rounds depth : Nat}
  {items : List Nested} {text after : List Char}

/-! ## Rows of items -/

/-- The first item is read off the text, and then the others up to what is left. -/
def ReadsRow (item further : Parser Value) : List Nested → (text after : List Char) → Prop
  | [], _, _ => False
  | first :: others, text, after =>
      ∃ middle, item.Succeeds (.text text) first.toValue (.text middle) ∧
        further.Advances (.text middle) (toValues others) (.text after)

theorem ReadsRow.single {item further : Parser Value} {nested : Nested}
    (reads : ReadsRow item further [nested] text after) :
    item.Succeeds (.text text) nested.toValue (.text after) := by
  rcases reads with ⟨middle, success, row⟩
  rw [row.rest_eq_of_nil]
  exact success

/-- Without a bracket there is no list. -/
theorem fails_grammar (other : text.head? ≠ some '[') :
    ∃ error, (grammar.parser verbosity ruleParsers rounds).Fails (.text text) error :=
  (Scanner.fails_exactCharacter other).imp fun _ failed =>
    Parser.fails_seqLeft_iff.mpr (Or.inl (Parser.fails_seqRight_iff.mpr (Or.inl failed)))

theorem fails_further (other : text.head? ≠ some ',') :
    ∃ error, (further.parser verbosity ruleParsers rounds).Fails (.text text) error :=
  (Scanner.fails_exactCharacter other).imp fun _ failed =>
    Parser.fails_seqRight_iff.mpr (Or.inl failed)

/-- Where neither a number nor a list follows the bracket, the list has to end. -/
theorem succeeds_nothing
    (absent : ∃ error, (ruleParsers ()).Fails (.text (']' :: after)) error) :
    (grammar.parser verbosity ruleParsers rounds).Succeeds (.text ('[' :: ']' :: after))
      (Nested.list []).toValue (.text after) := by
  have noItem : ∃ error, (item.parser verbosity ruleParsers rounds).Fails
      (.text (']' :: after)) error := by
    refine Parser.exists_fails_orElse (Scanner.fails_decimalNumeral ?_) absent
    intro first head
    cases head
    rfl
  have noItems : ∃ error, ((item.separatedOnce (Scanner.exactCharacter ',')).parser verbosity
      ruleParsers rounds).Fails (.text (']' :: after)) error :=
    noItem.imp fun _ failed =>
      Parser.fails_mapM_iff.mpr (Grammar.fails_both_iff.mpr (Or.inl failed))
  refine Parser.succeeds_seqLeft_iff.mpr ⟨.text (']' :: after), Value.ofChar ']', ?_,
    Scanner.succeeds_exactCharacter_iff.mpr ⟨after, rfl, rfl, rfl⟩⟩
  refine Parser.succeeds_seqRight_iff.mpr ⟨Value.ofChar '[', .text (']' :: after),
    Scanner.succeeds_exactCharacter_iff.mpr ⟨_, rfl, rfl, rfl⟩, ?_⟩
  exact Parser.succeeds_orElse_iff.mpr (Or.inr ⟨noItems, rfl⟩)

/-- A row of items between brackets is read as a list. -/
theorem succeeds_row
    (reads : ReadsRow (item.parser verbosity ruleParsers rounds)
      (further.parser verbosity ruleParsers rounds) items text (']' :: after)) :
    (grammar.parser verbosity ruleParsers rounds).Succeeds (.text ('[' :: text))
      (Nested.list items).toValue (.text after) := by
  cases items with
  | nil => exact absurd reads id
  | cons first others =>
      rcases reads with ⟨middle, started, row⟩
      have noMore : ∃ error, (further.parser verbosity ruleParsers rounds).Fails
          (.text (']' :: after)) error :=
        fails_further (by simp)
      refine Parser.succeeds_seqLeft_iff.mpr ⟨.text (']' :: after), Value.ofChar ']', ?_,
        Scanner.succeeds_exactCharacter_iff.mpr ⟨after, rfl, rfl, rfl⟩⟩
      refine Parser.succeeds_seqRight_iff.mpr ⟨Value.ofChar '[', .text text,
        Scanner.succeeds_exactCharacter_iff.mpr ⟨text, rfl, rfl, rfl⟩, ?_⟩
      refine Parser.succeeds_orElse_iff.mpr (Or.inl (Parser.succeeds_mapM_iff.mpr
        ⟨.tuple [first.toValue, .list (toValues others)], ?_, rfl⟩))
      exact Grammar.succeeds_both_iff.mpr ⟨_, _, _, rfl, started,
        Grammar.succeeds_many_iff.mpr ⟨_, rfl, row, noMore⟩⟩

/-! ## Renderings -/

/-- What stands behind a numeral does not prolong it. -/
def EndsDigits (after : List Char) : Prop :=
  ∀ first, after.head? = some first → first.isDigit = false

theorem endsDigits_cons {first : Char} (noDigit : first.isDigit = false) (others : List Char) :
    EndsDigits (first :: others) := by
  intro found head
  cases head
  exact noDigit

/-- The parser of a part of the grammar, when the rule may be entered to a depth. -/
def parserTo (verbosity : Verbosity) (rounds depth : Nat) (part : Grammar Unit) : Parser Value :=
  part.parser verbosity (Grammar.ruleParser verbosity rules rounds depth) rounds

theorem succeeds_item_of_list {value : Value}
    (success : (Grammar.ruleParser verbosity rules rounds depth ()).Succeeds
      (.text ('[' :: text)) value (.text after)) :
    (parserTo verbosity rounds depth item).Succeeds (.text ('[' :: text)) value
      (.text after) := by
  refine Parser.succeeds_orElse_iff.mpr (Or.inr ⟨Scanner.fails_decimalNumeral ?_, success⟩)
  intro first head
  cases head
  rfl

/-- Every row is read as it is written, at a depth that leaves room for the lists in it. -/
theorem Rendered.reads (rendered : Rendered items text) (deep : text.length ≤ depth)
    (ends : EndsDigits after) :
    ReadsRow (parserTo verbosity rounds depth item) (parserTo verbosity rounds depth further)
      items (text ++ after) after := by
  induction rendered generalizing depth after with
  | number areDigits =>
      refine ⟨after, Parser.succeeds_orElse_iff.mpr (Or.inl ?_), .stay _⟩
      exact Scanner.succeeds_decimalNumeral_iff.mpr ⟨_, after, areDigits, ends, rfl, rfl, rfl⟩
  | nothing =>
      rcases Nat.exists_eq_add_of_le' deep with ⟨depth, rfl⟩
      exact ⟨after, succeeds_item_of_list (succeeds_nothing (fails_grammar (by simp))), .stay _⟩
  | @list items text inner reads =>
      simp only [List.length_cons, List.length_append, List.length_nil] at deep
      rcases Nat.exists_eq_add_of_le' (Nat.le_trans (Nat.le_add_left 1 _) deep) with ⟨depth, rfl⟩
      have row := @reads depth (']' :: after) (by omega) (endsDigits_cons rfl after)
      refine ⟨after, ?_, .stay _⟩
      rw [List.cons_append, List.append_assoc]
      exact succeeds_item_of_list (succeeds_row row)
  | @more nested items text others first later readsFirst readsLater =>
      simp only [List.length_append, List.length_cons] at deep
      have comma : EndsDigits (',' :: (others ++ after)) := endsDigits_cons rfl _
      have started := @readsFirst depth (',' :: (others ++ after)) (by omega) comma
      have row := @readsLater depth after (by omega) ends
      rw [List.append_assoc]
      refine ⟨',' :: (others ++ after), started.single, ?_⟩
      cases items with
      | nil => exact absurd row id
      | cons second more =>
          rcases row with ⟨middle, success, advances⟩
          have shorter : middle.length ≤ (others ++ after).length := by
            rcases rendered_of_item (readsLists_ruleParser depth) success with
              ⟨_, taken, _, _, split, _, left⟩
            cases left
            rw [split, List.length_append]
            exact Nat.le_add_left _ _
          exact .step (Parser.succeeds_seqRight_iff.mpr ⟨_, _,
            Scanner.succeeds_exactCharacter_iff.mpr ⟨_, rfl, rfl, rfl⟩, success⟩)
            (Nat.lt_succ_of_le shorter) advances

/-- A list is read to its end, and not beyond. -/
theorem Rendered.succeeds (rendered : Rendered [.list items] text) (deep : text.length ≤ depth + 1)
    (after : List Char) :
    (Grammar.ruleParser verbosity rules rounds (depth + 1) ()).Succeeds (.text (text ++ after))
      (Nested.list items).toValue (.text after) := by
  cases rendered with
  | nothing =>
      rcases Nat.exists_eq_add_of_le' (Nat.le_of_succ_le_succ deep) with ⟨depth, rfl⟩
      exact succeeds_nothing (fails_grammar (by simp))
  | @list _ text inner =>
      simp only [List.length_cons, List.length_append, List.length_nil] at deep
      rw [List.cons_append, List.append_assoc]
      exact succeeds_row (inner.reads (by omega) (endsDigits_cons rfl after))
  | more _ later => exact absurd rfl later.ne_nil

/-! ## Whole texts -/

variable {bound : Nat} {name : String}

theorem answers_parserWithin (room : text.length < bound) :
    (grammar.parserWithin bound verbosity rules).Answers (.text text) := by
  have deeper : IsShort (bound + 1) (.text text) := ⟨text, rfl, Nat.lt_succ_of_lt room⟩
  exact answers_ruleParser (.text text) deeper

theorem returns_iff_rendered (room : text.length < bound) (value : Value) :
    ((grammar.parserWithin bound verbosity rules).parseAll (.text text) name).outcome = .ok value ↔
      ∃ items, Rendered [.list items] text ∧ value = (Nested.list items).toValue := by
  refine Parser.returns_parseAll_iff.trans ?_
  constructor
  · intro returned
    rcases returned with ⟨rest, success, ended⟩
    rcases readsLists_ruleParser (bound + 1) success with
      ⟨items, taken, after, rendered, rfl, rfl, rfl⟩
    cases after with
    | nil =>
        rw [List.append_nil]
        exact ⟨items, rendered, rfl⟩
    | cons first others => cases ended
  · intro written
    rcases written with ⟨items, rendered, rfl⟩
    have success : (grammar.parserWithin bound verbosity rules).Succeeds (.text (text ++ []))
        (Nested.list items).toValue (.text []) :=
      rendered.succeeds (Nat.le_succ_of_le (Nat.le_of_lt room)) []
    rw [List.append_nil] at success
    exact ⟨.text [], success, rfl⟩

/-- Parsing any other text reports an error at a place of the text. -/
theorem raises_of_not_rendered (room : text.length < bound)
    (unwritten : ∀ items, ¬ Rendered [.list items] text) :
    ∃ error offset, offset ≤ text.length ∧
      ((grammar.parserWithin bound verbosity rules).parseAll (.text text) name).outcome =
        .error (.fault (.parseFailed error (some (.ofOffset (.text text) offset name)))) := by
  have answers : (grammar.parserWithin bound verbosity rules).Answers (.text text) :=
    answers_parserWithin room
  have raised : ∃ error position,
      ((grammar.parserWithin bound verbosity rules).parseAll (.text text) name).outcome =
        .error (.fault (.parseFailed error position)) := by
    rcases answers.cases with ⟨value, rest, success⟩ | ⟨error, failure⟩
    · cases head : rest.head? with
      | none =>
          have returned : ((grammar.parserWithin bound verbosity rules).parseAll (.text text)
              name).outcome = .ok value :=
            Parser.returns_parseAll_iff.mpr ⟨rest, success, head⟩
          rcases (returns_iff_rendered room value).mp returned with ⟨items, rendered, _⟩
          exact absurd rendered (unwritten items)
      | some element =>
          exact ⟨_, _, Parser.raises_parseAll_iff.mpr
            (Or.inr (Or.inr ⟨value, rest, element, success, head, rfl⟩))⟩
    · exact ⟨_, _, Parser.raises_parseAll_iff.mpr (Or.inr (Or.inl ⟨error, failure, rfl⟩))⟩
  rcases raised with ⟨error, position, raised⟩
  rcases Grammar.parseAll_reports_position (fun _ => leavesPlace_grammar) leavesPlace_grammar
    raised with ⟨offset, within, _, rfl⟩ | ⟨own, _⟩
  · exact ⟨error, offset, within, raised⟩
  · exact absurd own answers.not_halts

/-- The parse of every text ends.  Parsing a whole text returns a nested list exactly when the
text is a rendering of this list, and it returns nothing else; for any text that is no
rendering it reports an error at a place in the text.  What is printed is read back. -/
theorem reads_renderings (verbosity : Verbosity) (text : List Char) (name : String) :
    let outcome := fun text =>
      ((grammar.parse verbosity rules).parseAll (.text text) name).outcome
    (grammar.parse verbosity rules).Answers (.text text) ∧
    (∀ value, outcome text = .ok value → ∃ items, value = (Nested.list items).toValue) ∧
    (∀ items, outcome text = .ok (Nested.list items).toValue ↔ Rendered [.list items] text) ∧
    ((∀ items, ¬ Rendered [.list items] text) →
      ∃ error offset, offset ≤ text.length ∧ outcome text =
        .error (.fault (.parseFailed error (some (.ofOffset (.text text) offset name))))) ∧
    ∀ items, outcome (Nested.list items).printed = .ok (Nested.list items).toValue := by
  have room : ∀ text, text.length < Grammar.ampleBound (.text text) :=
    fun text => Grammar.length_lt_ampleBound (.text text)
  have returns : ∀ text value,
      ((grammar.parse verbosity rules).parseAll (.text text) name).outcome = .ok value ↔
        ∃ items, Rendered [.list items] text ∧ value = (Nested.list items).toValue := by
    intro text value
    rw [Grammar.parseAll_parse]
    exact returns_iff_rendered (room text) value
  refine ⟨?_, ?_, ?_, ?_, ?_⟩
  · unfold Parser.Answers
    rw [Grammar.parse_apply]
    exact answers_parserWithin (room text)
  · intro value returned
    rcases (returns text value).mp returned with ⟨items, _, same⟩
    exact ⟨items, same⟩
  · intro items
    refine (returns text _).trans ?_
    constructor
    · intro written
      rcases written with ⟨others, rendered, same⟩
      rw [toValue_injective same]
      exact rendered
    · intro rendered
      exact ⟨items, rendered, rfl⟩
  · intro unwritten
    simp only [Grammar.parseAll_parse]
    exact raises_of_not_rendered (room text) unwritten
  · intro items
    exact (returns _ _).mpr ⟨items, rendered_printed (.list items), rfl⟩

end Nested

end OrderedChoice
