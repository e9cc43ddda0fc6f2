import OrderedChoice.Definitions

/-!
# Sessions

A session keeps an input and a cursor into it, which is what is left of the input.
Parsing moves the cursor on success only.  Places can be saved and returned to, and
definitions can change between one parse and the next.
-/

namespace OrderedChoice

/-- An input that is worked on step by step. -/
structure Session where
  origin : Stream
  cursor : Stream
  saved : List (String × Stream)
  definitions : Definitions

namespace Session

/-- A session at the start of an input. -/
def start (definitions : Definitions) (input : Stream) : Session :=
  ⟨input, input, [], definitions⟩

/-- Go on with another input. -/
def reset (session : Session) (input : Stream) : Session :=
  { session with origin := input, cursor := input }

/-- Add a definition. -/
def define (session : Session) (name : String) (grammar : Grammar RuleName) : Session :=
  { session with definitions := session.definitions.define name grammar }

/-- Parse at the cursor. -/
def parse (session : Session) (grammar : Grammar RuleName) : Run (Result Value) :=
  session.definitions.parser .warning grammar session.cursor

/-- Where the cursor stands after a parse. -/
def advance (session : Session) (result : Result Value) : Session :=
  match result with
  | .success _ rest => { session with cursor := rest }
  | .failure _ => session

/-- Move the cursor behind a cut. -/
def drop (session : Session) (position : Int) : Session :=
  { session with cursor := session.cursor.after position }

/-- Remember the cursor. -/
def save (session : Session) (slot : String) : Session :=
  { session with saved := (slot, session.cursor) :: session.saved }

/-- Return to the place that was remembered last under a name. -/
def restore (session : Session) (slot : String) : Except Fault Session :=
  match session.saved.lookup slot with
  | some cursor => return { session with cursor := cursor }
  | none => throw (.unknownRule slot)

/-- How far the cursor has moved. -/
def consumed (session : Session) : Int := session.origin.consumed session.cursor

/-- The position of the cursor. -/
def position (session : Session) (name : String) : Position :=
  .ofOffset session.origin session.consumed name

end Session

end OrderedChoice
