import OrderedChoice.Pattern.Basic

/-!
# Lexemes of patterns

A written pattern is first cut into lexemes: single items, repetition marks, bars and
brackets.  Each step returns what it leaves together with the proof that this is
shorter, so cutting ends.
-/

namespace OrderedChoice

namespace Pattern

/-- A rest that is shorter than the text it was cut from. -/
abbrev Shorter (characters : List Char) : Type :=
  { rest : List Char // rest.length < characters.length }

/-- A rest of a rest is a rest. -/
def Shorter.trans {characters : List Char} (rest : Shorter characters)
    (later : Shorter rest.val) : Shorter characters :=
  ⟨later.val, Nat.lt_trans later.property rest.property⟩

/-- What stands for one place in a class or between other items. -/
inductive Atom where
  | literal (character : Char)
  | category (named : Category) (complement : Bool)

/-- The meaning of a backslash before a character.  Letters and digits without a
meaning of their own are refused; any other character stands for itself. -/
def escape? : Char → Option Atom
  | 'd' => some (.category .digit false)
  | 'D' => some (.category .digit true)
  | 'w' => some (.category .word false)
  | 'W' => some (.category .word true)
  | 's' => some (.category .blank false)
  | 'S' => some (.category .blank true)
  | 'a' => some (.literal '\x07')
  | 'f' => some (.literal '\x0c')
  | 'n' => some (.literal '\n')
  | 'r' => some (.literal '\r')
  | 't' => some (.literal '\t')
  | 'v' => some (.literal '\x0b')
  | character => if character.isAlphanum then none else some (.literal character)

/-- Read one atom. -/
def atom? : (characters : List Char) → Option (Atom × Shorter characters)
  | [] => none
  | ['\\'] => none
  | '\\' :: character :: rest =>
      (escape? character).map fun atom => (atom, ⟨rest, by simp only [List.length_cons]; omega⟩)
  | character :: rest => some (.literal character, ⟨rest, by simp⟩)

/-- An atom as a part of a class. -/
def Atom.toClassItem : Atom → ClassItem
  | .literal character => .range character character
  | .category named complement => .category named complement

/-- Read one part of a class.  A hyphen makes a range, which needs two characters in
order, unless it ends the class. -/
def classItem? (characters : List Char) : Option (ClassItem × Shorter characters) := do
  let (first, rest) ← atom? characters
  match rest with
  | ⟨'-' :: after, shorter⟩ =>
      if after.head? = some ']' then return (first.toClassItem, ⟨'-' :: after, shorter⟩)
      else
        let (last, final) ← atom? after
        match first, last with
        | .literal low, .literal high =>
            if low.toNat ≤ high.toNat then
              return (.range low high, ⟨final.val, by
                have := final.property
                simp only [List.length_cons] at shorter
                omega⟩)
            else failure
        | _, _ => failure
  | rest => return (first.toClassItem, rest)

/-- Read the parts of a class behind its first one, and the bracket that closes it. -/
def classItems? (characters : List Char) : Option (List ClassItem × Shorter characters) :=
  match characters with
  | ']' :: rest => some ([], ⟨rest, by simp⟩)
  | characters => do
      let (item, rest) ← classItem? characters
      let (items, final) ← classItems? rest.val
      return (item :: items, rest.trans final)
termination_by characters.length
decreasing_by exact rest.property

/-- Read a class behind its opening bracket.  A closing bracket in first place stands
for itself. -/
def class? (characters : List Char) : Option (CharacterSet × Shorter characters) :=
  match characters with
  | '^' :: characters => do
      let (item, rest) ← classItem? characters
      let (items, final) ← classItems? rest.val
      return (.among true (item :: items), ⟨(rest.trans final).val, by
        have := (rest.trans final).property
        simp only [List.length_cons]
        omega⟩)
  | characters => do
      let (item, rest) ← classItem? characters
      let (items, final) ← classItems? rest.val
      return (.among false (item :: items), rest.trans final)

/-- A part of a written pattern. -/
inductive Lexeme where
  | item (node : Node)
  | anchor (node : Node)
  | repetition (least : Nat) (most : Option Nat) (greedy : Bool)
  | bar
  | opening
  | closing

/-- The number that the leading digits of a text denote, when there are any. -/
def leadingNumber? (characters : List Char) : Option Nat :=
  match characters.takeWhile Char.isDigit with
  | [] => none
  | digits => some (digits.foldl (fun number digit => number * 10 + (digit.toNat - '0'.toNat)) 0)

/-- What follows the leading digits of a text. -/
def afterNumber (characters : List Char) : List Char := characters.dropWhile Char.isDigit

theorem length_afterNumber_le (characters : List Char) :
    (afterNumber characters).length ≤ characters.length :=
  (List.dropWhile_sublist _).length_le

/-- Read the bounds of a repetition behind its opening brace.  Where no bounds stand
there, the brace is not a repetition mark. -/
def bounds? (characters : List Char) : Option ((Nat × Option Nat) × Shorter characters) :=
  let low := leadingNumber? characters
  match h : afterNumber characters with
  | '\x7d' :: rest =>
      low.map fun number => ((number, some number), ⟨rest, by
        have := length_afterNumber_le characters
        simp only [h, List.length_cons] at this
        omega⟩)
  | ',' :: more =>
      match hmore : afterNumber more with
      | '\x7d' :: rest =>
          some ((low.getD 0, leadingNumber? more), ⟨rest, by
            have first := length_afterNumber_le characters
            have second := length_afterNumber_le more
            simp only [h, hmore, List.length_cons] at first second
            omega⟩)
      | _ => none
  | _ => none

/-- Finish a repetition mark: a question mark behind it makes it prefer fewer
iterations.  Bounds in the wrong order and a plus sign there are refused. -/
def repetition? {characters : List Char} (least : Nat) (most : Option Nat)
    (rest : Shorter characters) : Option (Lexeme × Shorter characters) :=
  if most.any (· < least) then none
  else match rest with
    | ⟨'?' :: rest, shorter⟩ =>
        some (.repetition least most false, ⟨rest, by
          simp only [List.length_cons] at shorter
          omega⟩)
    | ⟨'+' :: _, _⟩ => none
    | rest => some (.repetition least most true, rest)

/-- Read one lexeme. -/
def lexeme? : (characters : List Char) → Option (Lexeme × Shorter characters)
  | [] => none
  | '|' :: rest => some (.bar, ⟨rest, by simp⟩)
  | '(' :: '?' :: ':' :: rest => some (.opening, ⟨rest, by simp only [List.length_cons]; omega⟩)
  | '(' :: '?' :: _ => none
  | '(' :: rest => some (.opening, ⟨rest, by simp⟩)
  | ')' :: rest => some (.closing, ⟨rest, by simp⟩)
  | '^' :: rest => some (.anchor .start, ⟨rest, by simp⟩)
  | '$' :: rest => some (.anchor .finish, ⟨rest, by simp⟩)
  | '.' :: rest => some (.item (.character .dot), ⟨rest, by simp⟩)
  | '*' :: rest => repetition? 0 none ⟨rest, by simp⟩
  | '+' :: rest => repetition? 1 none ⟨rest, by simp⟩
  | '?' :: rest => repetition? 0 (some 1) ⟨rest, by simp⟩
  | '\x7b' :: rest =>
      match bounds? rest with
      | some ((least, most), final) =>
          repetition? least most ⟨final.val, Nat.lt_succ_of_lt final.property⟩
      | none => some (.item (.character (.single '\x7b')), ⟨rest, by simp⟩)
  | '[' :: rest =>
      (class? rest).map fun (set, final) =>
        (.item (.character set), ⟨final.val, Nat.lt_succ_of_lt final.property⟩)
  | characters =>
      (atom? characters).map fun (atom, rest) =>
        (.item (.character (.among false [atom.toClassItem])), rest)

/-- Cut a written pattern into lexemes. -/
def lexemes? (characters : List Char) : Option (List Lexeme) :=
  if characters.isEmpty then some []
  else do
    let (lexeme, rest) ← lexeme? characters
    let lexemes ← lexemes? rest.val
    return lexeme :: lexemes
termination_by characters.length
decreasing_by exact rest.property

end Pattern

end OrderedChoice
