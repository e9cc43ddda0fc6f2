import OrderedChoice.Stream

/-!
# Rests of a stream

What a parser leaves of its input is the input without some of its first elements.  This
is a relation between two streams of one kind: a rest of a text is a text, and a rest of a
tuple is a tuple.  A rest is determined by its length, so two rests of the same length are
the same stream.
-/

namespace OrderedChoice

namespace Stream

@[simp]
theorem drop_zero (stream : Stream) : stream.drop 0 = stream := by
  cases stream <;> simp [drop]

@[simp]
theorem drop_drop (first second : Nat) (stream : Stream) :
    (stream.drop first).drop second = stream.drop (first + second) := by
  cases stream <;> simp [drop, List.drop_drop]

/-- Cutting off more elements than there are leaves what cutting off all of them leaves. -/
theorem drop_min (count : Nat) (stream : Stream) :
    stream.drop (min count stream.length) = stream.drop count := by
  rcases Nat.le_total count stream.length with within | beyond
  · rw [Nat.min_eq_left within]
  · rw [Nat.min_eq_right beyond]
    cases stream <;>
      simp only [drop, length] at beyond ⊢ <;>
      rw [List.drop_eq_nil_of_le beyond, List.drop_eq_nil_of_le (Nat.le_refl _)]

/-- A stream without a first element has no element at all. -/
theorem head?_eq_none_iff (stream : Stream) : stream.head? = none ↔ stream.length = 0 := by
  rw [head?_eq, List.head?_eq_none_iff, ← length_toList, List.length_eq_zero_iff]

/-- What is left of a stream when some of its first elements are cut off. -/
def IsRest (rest origin : Stream) : Prop :=
  ∃ count, count ≤ origin.length ∧ rest = origin.drop count

namespace IsRest

variable {origin middle rest : Stream}

theorem refl (stream : Stream) : stream.IsRest stream :=
  ⟨0, Nat.zero_le _, (drop_zero stream).symm⟩

/-- A count beyond the end is no exception, as it leaves the empty rest. -/
theorem drop (count : Nat) (stream : Stream) : (stream.drop count).IsRest stream :=
  ⟨min count stream.length, Nat.min_le_right _ _, (drop_min count stream).symm⟩

theorem trans (later : rest.IsRest middle) (earlier : middle.IsRest origin) :
    rest.IsRest origin := by
  rcases earlier with ⟨first, _, rfl⟩
  rcases later with ⟨second, _, rfl⟩
  rw [drop_drop]
  exact IsRest.drop _ origin

theorem length_le (isRest : rest.IsRest origin) : rest.length ≤ origin.length := by
  rcases isRest with ⟨count, _, rfl⟩
  rw [length_drop]
  exact Nat.sub_le _ _

/-- A rest that is not shorter than the stream is the stream itself. -/
theorem eq_of_length_le (isRest : rest.IsRest origin) (same : origin.length ≤ rest.length) :
    rest = origin := by
  rcases isRest with ⟨count, within, rfl⟩
  rw [length_drop] at same
  have nothing : count = 0 := by omega
  rw [nothing, drop_zero]

end IsRest

end Stream

end OrderedChoice
