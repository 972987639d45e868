import ConfigCoverage.Error
import ConfigCoverage.Python.Grammar.Statements
import ConfigCoverage.Python.Literal
import ConfigCoverage.Python.Lowering

/-!
# Reading Python

* `parseFile`: the program of a source text, if the text is Python.
-/

namespace ConfigCoverage.Python

/-- The rules of the grammar. -/
def rules : Rule → Syn
  | .source => sourceRule
  | .embedded => embeddedRule
  | .statement => statementRule
  | .suite => suiteRule
  | .test => testRule
  | .orTest => orTestRule
  | .expression => expressionRule
  | .factor => factorRule
  | .primary => primaryRule
  | .namedTest => namedTestRule
  | .starOrNamed => starOrNamedRule
  | .comprehension => comprehensionRule
  | .lambda => lambdaRule
  | .testList => testListRule
  | .yieldExpression => yieldExpressionRule
  | .pattern => patternRule
  | .ifRest => ifRestRule

/-- The string literals from a place on. -/
def stringsFrom (tokens : Array Token) : Nat → Nat → List (StringKind × List Char × Token)
  | 0, _ => []
  | fuel + 1, pos =>
    match tokens[pos]? with
    | some t =>
      match t.kind with
      | .string kind contents => (kind, contents, t) :: stringsFrom tokens fuel (pos + 1)
      | _ => []
    | none => []

/-- The value of string literals side by side: joined, if they are all plain; bytes do not mix with others.
`isExpression` tells the expressions that may be embedded. -/
def stringsValue? (isExpression : List Char → Bool) (strings : List (StringKind × List Char)) :
    Option (String → Value) :=
  let bytes := strings.filter fun s => s.1.isBytes
  let isOk := strings.all fun (kind, contents) =>
    if kind.isFormatted then ((fields? kind.isRaw contents).map fun fs => fs.all isExpression).getD false
    else (stringValue? kind contents).isSome
  if !isOk || (!bytes.isEmpty && bytes.length < strings.length) then none
  else if !bytes.isEmpty || strings.any fun s => s.1.isFormatted then some otherTerm
  else some fun _ =>
    .term (.string (String.ofList (strings.flatMap fun s => (stringValue? s.1 s.2).getD []))) .plain

/-- The part of a token. -/
def tokenPart (t : Token) (value : Value) : Part := ⟨t.gap, t.text, t.row, value⟩

/-- What a terminal matches at a place. -/
def stepToken (isExpression : List Char → Bool) (tokens : Array Token) (terminal : Terminal) (pos : Nat) :
    Option (List Part × Nat) :=
  match tokens[pos]? with
  | none => none
  | some t =>
    let take := fun (value : Value) (ok : Bool) => if ok then some ([tokenPart t value], pos + 1) else none
    match terminal with
    | .operator s => take .token (t.kind == .operator && t.text == s)
    | .keyword w => take .token (t.kind == .keyword && t.text == w)
    | .name => take .name (t.kind == .name)
    | .number => take .token (t.kind == .number)
    | .strings =>
      let run := stringsFrom tokens (tokens.size - pos) pos
      if run.isEmpty then none
      else
        (stringsValue? isExpression (run.map fun s => (s.1, s.2.1))).map fun value =>
          (joinParts (run.map fun s => tokenPart s.2.2 .token) value, pos + run.length)
    | .newline => take .token (t.kind == .newline)
    | .indent => take .token (t.kind == .indent)
    | .dedent => take .token (t.kind == .dedent)
    | .endOfSource => take .token (t.kind == .endOfSource)

/-- Parse a text by a rule. The expressions in formatted strings are parsed on their own, in parentheses; `depth`
bounds how deep such strings stand in each other. -/
def parseFrom : Nat → Rule → List Char → Option (List Part)
  | 0, _, _ => none
  | depth + 1, start, cs =>
    match tokens? (start == .source) cs with
    | none => none
    | some ts =>
      let tokens := ts.toArray
      let isExpression := fun source => (parseFrom depth .embedded (['('] ++ source ++ [')'])).isSome
      let grammar : Grammar Terminal Rule Part := ⟨rules, stepToken isExpression tokens⟩
      (grammar.parse tokens.size start).result.map Prod.fst

/-- The statements of a source text. A string inside another is shorter by its quotes, so the length bounds the depth. -/
def parseModule? (source : String) : Option (List Statement) :=
  (parseFrom (source.length + 1) .source source.toList).map statementsOf

/-- The program of a source text. -/
def parseFile (source fileName : String) : Except Failure SourceFile :=
  match parseModule? source with
  | some body => .ok (lowerModule fileName body)
  | none => .error (.syntaxError fileName 0)

end ConfigCoverage.Python
