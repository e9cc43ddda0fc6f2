import OrderedChoice.Scanner.Character

/-!
# Continuations

Ready-made functions from the value of a match to the grammar that goes on.
-/

namespace OrderedChoice

/-- A function from a value to the grammar of what follows it. -/
abbrev Continuation (ν : Type) : Type := Value → Grammar ν

namespace Continuation

variable {ν : Type}

/-- Yield the value. -/
def pure : Continuation ν := fun value => Grammar.pure value

/-- Yield a list of the value alone. -/
def wrap : Continuation ν := fun value => .pure (.list [value])

/-- Fail with the text of the value. -/
def fail : Continuation ν := fun value => .fail value.shown

/-- Match an element equal to the value. -/
def character : Continuation ν := Scanner.character

/-- Match the elements of the value. -/
def string : Continuation ν :=
  fun value => .ofExcept (Grammar.literal? value none Value.shown)

/-- Match as many characters as the value says. -/
def textOfLength : Continuation ν := fun value => .ofExcept (Scanner.textOfLength? value)

/-- Match the body as many times as the value says. -/
def exactly (body : Grammar ν) : Continuation ν := fun value => .ofExcept (body.exactly? value)

/-- Match the same body after every value. -/
def const (body : Grammar ν) : Continuation ν := fun _ => body

/-- Match the body and yield the value next to the value of the body. -/
def pair (body : Grammar ν) : Continuation ν :=
  fun value => body.map fun other => return .tuple [value, other]

/-- Match the body next to the first key equal to the value, or the last one. -/
def case (table : List (Value × Grammar ν)) (otherwise : Grammar ν) : Continuation ν :=
  fun value => match table.find? fun (key, _) => key == value with
    | some (_, body) => body
    | none => otherwise

/-- Fault on every value. -/
def raise (reason : String) : Continuation ν := fun _ => .fault (.raised reason)

end Continuation

end OrderedChoice
