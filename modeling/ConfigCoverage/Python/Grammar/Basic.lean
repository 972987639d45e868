import ConfigCoverage.Grammar
import ConfigCoverage.Python.Tree

/-!
# The parts of the Python grammar

Terminals, rule names, and the values that the rules build. A part knows the whole text it spans; the expression in it
may be a smaller stretch, as redundant parentheses belong to the part and not to the expression.
-/

namespace ConfigCoverage.Python

/-- What a terminal matches. -/
inductive Terminal where
  | operator (text : String)
  | keyword (text : String)
  | name
  | number
  /-- String literals side by side. -/
  | strings
  | newline
  | indent
  | dedent
  | endOfSource

/-- The names of rules. -/
inductive Rule where
  | source
  | embedded
  | statement
  | suite
  | test
  | orTest
  | expression
  | factor
  | primary
  | namedTest
  | starOrNamed
  | comprehension
  | lambda
  | testList
  | yieldExpression
  | pattern
  | ifRest
deriving DecidableEq, Repr

/-- Where an expression may stand: anywhere, or only in some lists. -/
inductive Shape where
  | plain
  | starred
  /-- It binds a name on the side. -/
  | named
deriving DecidableEq, Repr

/-- The parts of a call's arguments. -/
inductive Argument where
  | positional (t : Term) (isStarred : Bool)
  | keyword (name : Option String) (t : Term)

/-- A parameter of a function. -/
inductive Parameter where
  | plain (name : String) (hasDefault : Bool)
  /-- Those before it are positional only. -/
  | slash
  | star (name : Option String)
  | doubleStar (name : Option String)

/-- What a suite is for in its statement. -/
inductive Role where
  | body
  | handler
  | orelse
  | final
deriving DecidableEq, Repr

/-- The value of a part. -/
inductive Value where
  | token
  | name
  | term (t : Term) (shape : Shape)
  /-- A key with a value in a dictionary, with the shape of the key. -/
  | entry (shape : Shape)
  /-- A mapping whose entries are taken over. -/
  | unpacking
  /-- The loops and conditions after an element. -/
  | generator
  | argument (a : Argument)
  | parameter (p : Parameter)
  /-- The arguments after a function. -/
  | callOf (args : List Term) (keywords : List (Option String × Term))
  /-- A name after a dot. -/
  | memberOf (name : String)
  /-- A subscript in brackets. -/
  | subscriptOf
  | item (context : Term) (target : Option Term)
  | decorator (t : Term)
  | statement (s : Statement)
  | suite (role : Role) (body : List Statement)

/-- A stretch of the source. -/
structure Part where
  gap : String
  text : String
  row : Nat
  value : Value

/-- Expressions of the Python grammar. -/
abbrev Syn := Peg Terminal Rule Part

/-- An operator or a delimiter. -/
def op (text : String) : Syn := .terminal (.operator text)

/-- A keyword. -/
def kw (text : String) : Syn := .terminal (.keyword text)

/-- A name. -/
def identifier : Syn := .terminal .name

/-- The end of a line of statements. -/
def newline : Syn := .terminal .newline

/-- What stands between elements. -/
def comma : Syn := op ","

/-- What stands before a suite, a type or a value. -/
def colon : Syn := op ":"

/-- Something in parentheses. -/
def inParens (p : Syn) : Syn := .all [op "(", p, op ")"]

/-- Something in brackets. -/
def inBrackets (p : Syn) : Syn := .all [op "[", p, op "]"]

/-- Something in braces. -/
def inBraces (p : Syn) : Syn := .all [op "\x7b", p, op "\x7d"]

/-- At least one, with commas between, and perhaps one more comma. -/
def commaList (p : Syn) : Syn := .seq (.sepBy1 p comma) (.opt comma)

/-! ## Building parts -/

/-- The text from the first of the parts to the last. -/
def textOf : List Part → String
  | [] => ""
  | p :: ps => ps.foldl (fun text q => text ++ q.gap ++ q.text) p.text

/-- One part for all; `value` depends on their text. -/
def joinParts (ps : List Part) (value : String → Value) : List Part :=
  let text := textOf ps
  [⟨(ps.head?.map Part.gap).getD "", text, (ps.head?.map Part.row).getD 0, value text⟩]

/-- The term of a part. -/
def Part.term? (p : Part) : Option Term :=
  match p.value with
  | .term t _ => some t
  | _ => none

/-- The terms among parts. -/
def termsOf (ps : List Part) : List Term := ps.filterMap Part.term?

/-- The shapes of the terms among parts. -/
def shapesOf (ps : List Part) : List Shape :=
  ps.filterMap fun p => match p.value with
    | .term _ shape => some shape
    | _ => none

/-- The names among parts. -/
def namesOf (ps : List Part) : List String :=
  ps.filterMap fun p => match p.value with
    | .name => some p.text
    | _ => none

/-- Build one part. -/
def part (value : List Part → String → Value) (p : Syn) : Syn :=
  .build (fun ps => some (joinParts ps (value ps))) p

/-- Build one part, or refuse. -/
def part? (value : List Part → Option (String → Value)) (p : Syn) : Syn :=
  .build (fun ps => (value ps).map (joinParts ps)) p

/-- An expression of which only the text is kept. -/
def other (p : Syn) : Syn := part (fun _ text => .term (.other text) .plain) p

/-- One part stays as it is; several become an expression of which only the text is kept. -/
def collapse (p : Syn) : Syn :=
  .build (fun ps => some (match ps with
    | [q] => [q]
    | _ => joinParts ps fun text => .term (.other text) .plain)) p

/-- Build a statement; its text is of no further interest. -/
def stmt (s : List Part → Statement) (p : Syn) : Syn :=
  .build (fun ps => some [⟨"", "", 0, .statement (s ps)⟩]) p

/-- A statement of no interest. -/
def otherStmt (p : Syn) : Syn := stmt (fun _ => .other) p

/-- The statements among parts. -/
def statementsOf (ps : List Part) : List Statement :=
  ps.filterMap fun p => match p.value with
    | .statement s => some s
    | _ => none

/-- The suites among parts that have a role. -/
def suitesOf (role : Role) (ps : List Part) : List (List Statement) :=
  ps.filterMap fun p => match p.value with
    | .suite r body => if r = role then some body else none
    | _ => none

/-- The first suite with a role, or none of the statements. -/
def suiteOf (role : Role) (ps : List Part) : List Statement := (suitesOf role ps).headD []

/-- A suite after a colon. -/
def suiteAs (role : Role) : Syn :=
  .seq colon (.build (fun ps => some [⟨"", "", 0, .suite role (statementsOf ps)⟩]) (.rule .suite))

end ConfigCoverage.Python
