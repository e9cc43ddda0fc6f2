import OrderedChoice.Proofs.Parser.Answer
import OrderedChoice.Proofs.Parser.Sequence
import OrderedChoice.Proofs.Stream.Prefix
import OrderedChoice.Proofs.Stream.Rest

/-!
# Literals

A literal is matched all at once: the front of the input is compared with it, in one of two ways
that depend on the kinds of both.  Reading its elements one after the other, each by a test for
equality, accepts the same inputs and leaves the same rest.  The two differ where they fail, as a
literal never reports that a part of it has matched.
-/

namespace OrderedChoice

namespace Stream

variable {stream literal : Stream}

/-- Elements in front of a rest make up the stream again. -/
theorem append?_take_drop (count : Nat) (stream : Stream) :
    (stream.take count).append? (stream.drop count) = some stream := by
  cases stream <;> simp only [take, drop, append?, List.take_append_drop]

/-- A stream begins with a literal that is no longer, when they agree at every place that the
literal has. -/
theorem beginsWith_iff_getElem :
    stream.BeginsWith literal ↔
      literal.length ≤ stream.length ∧
        ∀ index (inLiteral : index < literal.toList.length)
          (inStream : index < stream.toList.length),
          (stream.toList[index] == literal.toList[index]) = true := by
  constructor
  · intro begins
    refine ⟨begins.length_le, ?_⟩
    intro index inLiteral inStream
    have taken : index < (stream.toList.take literal.length).length := by
      rw [List.length_take, ← length_toList literal]
      exact Nat.lt_min.mpr ⟨inLiteral, inStream⟩
    have same := (List.forall₂_iff_get.mp begins).2 index taken inLiteral
    rwa [List.get_eq_getElem, List.getElem_take] at same
  · intro agrees
    rcases agrees with ⟨noLonger, agrees⟩
    refine List.forall₂_iff_get.mpr ⟨?_, ?_⟩
    · rw [List.length_take, length_toList, length_toList, Nat.min_eq_left noLonger]
    · intro index taken inLiteral
      rw [List.get_eq_getElem, List.getElem_take]
      exact agrees index inLiteral _

theorem toList_of_head? {element : Value} (head : stream.head? = some element) :
    stream.toList = element :: (stream.drop 1).toList := by
  rw [head?_eq] at head
  rcases List.head?_eq_some_iff.mp head with ⟨others, split⟩
  rw [toList_drop, split, List.drop_one, List.tail_cons]

/-- The kinds of the two streams decide how they are compared, but not what comes of it. -/
theorem startsWith_eq_startsWith_toList (stream literal : Stream) :
    stream.startsWith literal = (Stream.list stream.toList).startsWith (.list literal.toList) := by
  rw [Bool.eq_iff_iff, startsWith_iff, startsWith_iff, BeginsWith, BeginsWith]
  change _ ↔ List.Forall₂ _ (stream.toList.take literal.toList.length) literal.toList
  rw [length_toList]

end Stream

namespace Grammar

variable {ν : Type} {verbosity : Verbosity} {rules : ν → Parser Value} {rounds : Nat}
  {label : Value} {shown : Value → String} {input rest : Stream} {values wanted : List Value}

/-- Read one element for each of the wanted ones, in order, each by the test that it is equal. -/
def readElements (verbosity : Verbosity) (rules : ν → Parser Value) (rounds : Nat)
    (label : Value) (shown : Value → String) (wanted : List Value) : Parser (List Value) :=
  .inTurn (wanted.map fun value =>
    (satisfy (fun element => .ok (element == value)) label shown).parser verbosity rules rounds)

theorem succeeds_readElements_iff :
    (readElements verbosity rules rounds label shown wanted).Succeeds input values rest ↔
      List.Forall₂ (fun element value => (element == value) = true)
        (input.toList.take wanted.length) wanted ∧
      values = input.toList.take wanted.length ∧ rest = input.drop wanted.length := by
  refine Parser.succeeds_inTurn_iff.trans ?_
  induction wanted generalizing input values with
  | nil =>
      constructor
      · intro follows
        cases follows
        exact ⟨.nil, rfl, (Stream.drop_zero _).symm⟩
      · intro read
        rcases read with ⟨_, rfl, rfl⟩
        rw [List.length_nil, Stream.drop_zero]
        exact .done input
  | cons first wanted later =>
      have further : (input.drop 1).drop wanted.length = input.drop (wanted.length + 1) := by
        rw [Stream.drop_drop, Nat.add_comm]
      constructor
      · intro follows
        cases follows with
        | next success follows =>
            rcases succeeds_satisfy_iff.mp success with ⟨head, equal, rfl⟩
            rcases later.mp follows with ⟨agree, rfl, rfl⟩
            rw [Stream.toList_of_head? head, List.length_cons, List.take_succ_cons]
            exact ⟨.cons (Except.ok.inj equal) agree, rfl, further⟩
      · intro read
        rcases read with ⟨agree, rfl, rfl⟩
        cases head : input.head? with
        | none =>
            rw [Stream.head?_eq, List.head?_eq_none_iff] at head
            rw [head] at agree
            cases agree
        | some element =>
            rw [Stream.toList_of_head? head, List.length_cons, List.take_succ_cons] at agree ⊢
            cases agree with
            | cons equal agree =>
                exact .next (succeeds_satisfy_iff.mpr ⟨head, congrArg Except.ok equal, rfl⟩)
                  (later.mpr ⟨agree, rfl, further.symm⟩)

/-- A stream begins with a literal when the literal is no longer and equals it at each of its
places, whatever kinds the two are of and however they are compared.  So a literal is read exactly
where its elements are, one after the other, with the same rest.  Its value is the front of the
input, in the kind of the input, which makes up the input again with the rest behind it.  Where a
literal is not read, its error has the whole input left. -/
theorem literals_read_element_by_element (literal input : Stream) (expected label : Value)
    (display shown : Value → String) (verbosity : Verbosity) (rules : ν → Parser Value)
    (rounds : Nat) :
    let whole := (tokens literal expected display).parser verbosity rules rounds
    let row := readElements verbosity rules rounds label shown literal.toList
    (input.startsWith literal = true ↔
      literal.length ≤ input.length ∧
        ∀ index (inLiteral : index < literal.toList.length) (inInput : index < input.toList.length),
          (input.toList[index] == literal.toList[index]) = true) ∧
    input.startsWith literal = (Stream.list input.toList).startsWith (.list literal.toList) ∧
    whole.Answers input ∧
    (∀ rest, (∃ value, whole.Succeeds input value rest) ↔ ∃ values, row.Succeeds input values rest) ∧
    (∀ value rest, whole.Succeeds input value rest →
      value = (input.take literal.length).toValue ∧
        (input.take literal.length).append? rest = some input) ∧
    (∀ error, whole.Fails input error → error.remaining = some (input.length : Int)) := by
  intro whole row
  refine ⟨?_, Stream.startsWith_eq_startsWith_toList input literal, ?_, ?_, ?_, ?_⟩
  · rw [Stream.startsWith_iff, Stream.beginsWith_iff_getElem]
  · exact Run.isCompositional_returns.tokens literal expected display input
  · intro rest
    constructor
    · intro success
      rcases success with ⟨value, success⟩
      rcases Parser.succeeds_tokens_iff.mp success with ⟨starts, _, rfl⟩
      refine ⟨_, succeeds_readElements_iff.mpr ⟨?_, rfl, ?_⟩⟩
      · rw [Stream.length_toList]
        exact (Stream.startsWith_iff _ _).mp starts
      · rw [Stream.length_toList]
    · intro success
      rcases success with ⟨values, success⟩
      rcases succeeds_readElements_iff.mp success with ⟨agree, _, rfl⟩
      rw [Stream.length_toList] at agree ⊢
      exact ⟨_, Parser.succeeds_tokens_iff.mpr ⟨(Stream.startsWith_iff _ _).mpr agree, rfl, rfl⟩⟩
  · intro value rest success
    rcases Parser.succeeds_tokens_iff.mp success with ⟨_, rfl, rfl⟩
    exact ⟨rfl, Stream.append?_take_drop _ input⟩
  · intro error failure
    rcases Parser.fails_tokens_iff.mp failure with ⟨_, rfl⟩
    rfl

/-- Bytes against a list of integers, of which the last one differs. -/
theorem list_literal_on_bytes :
    let literal := Stream.list [.int 104, .int 105]
    let whole := (tokens literal (.text "hi") Value.shown : Grammar Unit).parser .warning
      (fun _ => .fail "") 0
    let row := readElements .warning (fun _ : Unit => .fail "") 0 (.text "token") Value.shown
      literal.toList
    (∃ values, row.Succeeds (.bytes [104, 105, 33]) values (.bytes [33])) ∧
    (Stream.bytes [104, 105]).append? (.bytes [33]) = some (.bytes [104, 105, 33]) ∧
    ∃ error, whole.Fails (.bytes [104, 33]) error ∧ error.remaining = some 2 := by
  intro literal whole row
  have read := literals_read_element_by_element literal (.bytes [104, 105, 33]) (.text "hi")
    (.text "token") Value.shown Value.shown .warning (fun _ : Unit => .fail "") 0
  have refused := literals_read_element_by_element literal (.bytes [104, 33]) (.text "hi")
    (.text "token") Value.shown Value.shown .warning (fun _ : Unit => .fail "") 0
  have success : whole.Succeeds (.bytes [104, 105, 33]) (.bytes [104, 105]) (.bytes [33]) := rfl
  have failure : whole.Fails (.bytes [104, 33]) (.unexpected (.text "hi")
    (.text (Value.shown (.bytes [104, 33]))) (some 2)) := rfl
  exact ⟨(read.2.2.2.1 _).mp ⟨_, success⟩, (read.2.2.2.2.1 _ _ success).2,
    _, failure, refused.2.2.2.2.2 _ failure⟩

end Grammar

end OrderedChoice
