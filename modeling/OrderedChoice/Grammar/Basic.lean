import OrderedChoice.Parser.Chain
import OrderedChoice.Parser.Matching
import OrderedChoice.Parser.Observed
import OrderedChoice.Parser.Repetition

/-!
# Grammars

A grammar is a parser written down: an expression over the primitives and combinators
whose values are all of one type, so that it can be inspected, renamed and run.  It
refers to rules by name.  A rule is looked up only when it is reached, which is what
makes recursive grammars possible.

The meaning of a grammar is a parser, given the parsers of its rules.
-/

namespace OrderedChoice

/-- An expression for a parser, over rules named by `ν`.  `note` and `observed` write to
the log and change nothing else.  What the operator of a chain yields stands for a
function that `apply` knows.  `fault` never returns, and `custom` is any parser with an
optional name. -/
inductive Grammar (ν : Type) where
  | pure (value : Value)
  | fail (content : String)
  | endOfInput
  | token (select : Value → Except Fault (Option Value)) (expected : Value)
      (display : Value → String)
  | tokens (literal : Stream) (expected : Value) (display : Value → String)
  | matching (pattern : Pattern)
  | rule (name : ν)
  | named (name : String) (body : Grammar ν)
  | map (f : Value → Except Fault Value) (body : Grammar ν)
  | filter (check : Value → Except Fault (Option ParseError)) (body : Grammar ν)
  | bind (first : Grammar ν) (next : Value → Grammar ν)
  | both (first second : Grammar ν)
  | seqRight (first second : Grammar ν)
  | seqLeft (first second : Grammar ν)
  | orElse (first second : Grammar ν)
  | exactly (count : Nat) (body : Grammar ν)
  | repeated (least : Nat) (combinator : String) (body : Grammar ν)
  | chainLeftBy (apply : Value → Value → Value → Except Fault Value)
      (term operator : Grammar ν)
  | chainRightBy (apply : Value → Value → Value → Except Fault Value)
      (term operator : Grammar ν)
  | lookAhead (body : Grammar ν)
  | notFollowedBy (body : Grammar ν)
  | note (label : String)
  | observed (label : String) (body : Grammar ν)
  | fault (cause : Fault)
  | custom (name : Option String) (parser : Parser Value)

namespace Grammar

variable {ν μ : Type}

/-- The name of a grammar, for those that have one. -/
def name? : Grammar ν → Option String
  | .endOfInput => some "eof"
  | .matching pattern => some ("regex /" ++ pattern.source ++ "/")
  | .named name _ => some name
  | .observed label _ => some label
  | .custom name _ => name
  | _ => none

/-- How a grammar is described in the log. -/
def describe (grammar : Grammar ν) : String :=
  match grammar.name? with
  | none | some "" => "<Parser at 0x0>"
  | some name => "<Parser " ++ name ++ ">"

/-- The parser that a grammar means, given the parsers of its rules and the number of
rounds that a chain may take. -/
def parser (verbosity : Verbosity) (rules : ν → Parser Value) (rounds : Nat) :
    Grammar ν → Parser Value
  | .pure value => .pure value
  | .fail content => .fail content
  | .endOfInput => Parser.endOfInput.map fun _ => .nothing
  | .token select expected display => .token select expected display
  | .tokens literal expected display => .tokens literal expected display
  | .matching pattern => .matching pattern
  | .rule name => rules name
  | .named _ body => body.parser verbosity rules rounds
  | .map f body => (body.parser verbosity rules rounds).mapM f
  | .filter check body => (body.parser verbosity rules rounds).filter check
  | .bind first next =>
      (first.parser verbosity rules rounds).bind fun value =>
        (next value).parser verbosity rules rounds
  | .both first second =>
      ((first.parser verbosity rules rounds).both (second.parser verbosity rules rounds)).map
        fun (value, other) => .tuple [value, other]
  | .seqRight first second =>
      (first.parser verbosity rules rounds).seqRight (second.parser verbosity rules rounds)
  | .seqLeft first second =>
      (first.parser verbosity rules rounds).seqLeft (second.parser verbosity rules rounds)
  | .orElse first second =>
      (first.parser verbosity rules rounds).orElse (second.parser verbosity rules rounds)
  | .exactly count body => ((body.parser verbosity rules rounds).exactly count).map .list
  | .repeated least combinator body =>
      Parser.map .list (Parser.repeated least combinator (body.parser verbosity rules rounds))
  | .chainLeftBy apply term operator =>
      .chainLeft rounds apply (term.parser verbosity rules rounds)
        (operator.parser verbosity rules rounds)
  | .chainRightBy apply term operator =>
      .chainRight rounds apply (term.parser verbosity rules rounds)
        (operator.parser verbosity rules rounds)
  | .lookAhead body => (body.parser verbosity rules rounds).lookAhead
  | .notFollowedBy body =>
      ((body.parser verbosity rules rounds).notFollowedBy Value.shown).map fun _ => .nothing
  | .note label => (Parser.note verbosity label).map fun _ => .nothing
  | .observed label body =>
      .observed verbosity label body.describe (body.parser verbosity rules rounds)
  | .fault cause => .fault cause
  | .custom _ parser => parser

/-- Refer to the rules by other names. -/
def rename (f : ν → μ) : Grammar ν → Grammar μ
  | .pure value => .pure value
  | .fail content => .fail content
  | .endOfInput => .endOfInput
  | .token select expected display => .token select expected display
  | .tokens literal expected display => .tokens literal expected display
  | .matching pattern => .matching pattern
  | .rule name => .rule (f name)
  | .named name body => .named name (body.rename f)
  | .map change body => .map change (body.rename f)
  | .filter check body => .filter check (body.rename f)
  | .bind first next => .bind (first.rename f) fun value => (next value).rename f
  | .both first second => .both (first.rename f) (second.rename f)
  | .seqRight first second => .seqRight (first.rename f) (second.rename f)
  | .seqLeft first second => .seqLeft (first.rename f) (second.rename f)
  | .orElse first second => .orElse (first.rename f) (second.rename f)
  | .exactly count body => .exactly count (body.rename f)
  | .repeated least combinator body => .repeated least combinator (body.rename f)
  | .chainLeftBy apply term operator => .chainLeftBy apply (term.rename f) (operator.rename f)
  | .chainRightBy apply term operator => .chainRightBy apply (term.rename f) (operator.rename f)
  | .lookAhead body => .lookAhead (body.rename f)
  | .notFollowedBy body => .notFollowedBy (body.rename f)
  | .note label => .note label
  | .observed label body => .observed label (body.rename f)
  | .fault cause => .fault cause
  | .custom name parser => .custom name parser

end Grammar

end OrderedChoice
