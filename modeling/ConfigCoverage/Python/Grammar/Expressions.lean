import ConfigCoverage.Python.Grammar.Basic

/-!
# Python expressions

The analysis looks into an expression only if no operator stands in it, so operators are grouped no further than their
operands ask for.
-/

namespace ConfigCoverage.Python

open Peg

/-! ## Calls and subscripts -/

/-- The positional and the keyword arguments of a call. A keyword is given once; after a keyword comes no positional
argument that is not starred, and after an unpacked mapping none at all. -/
def splitArguments : List Argument → Option (List Term × List (Option String × Term))
  | args =>
    let step := fun (acc : Option (List Term × List (Option String × Term))) (a : Argument) =>
      match acc, a with
      | .none, _ => .none
      | .some (ts, ks), .positional t isStarred =>
        if (!ks.isEmpty && !isStarred) || ks.any (fun k => k.1.isNone) then none else some (t :: ts, ks)
      | .some (ts, ks), .keyword name t =>
        if name.isSome && ks.any (fun k => k.1 == name) then none else some (ts, (name, t) :: ks)
    (args.foldl step (some ([], []))).map fun (ts, ks) => (ts.reverse, ks.reverse)

/-- The arguments among parts. -/
def argumentsOf (ps : List Part) : List Argument :=
  ps.filterMap fun p => match p.value with
    | .argument a => some a
    | _ => none

/-- The first term among parts. -/
def firstTerm (ps : List Part) : Term := (termsOf ps).headD .none

/-- An argument of a call. One by position may be a generator. -/
def argument : Syn :=
  oneOf
    [part (fun ps _ => .argument (.keyword none (firstTerm ps))) (.seq (op "**") (.rule .test)),
     part (fun _ text => .argument (.positional (.other text) true)) (.seq (op "*") (.rule .test)),
     part (fun ps _ => .argument (.keyword (namesOf ps).head? (firstTerm ps))) (.all [identifier, op "=", .rule .test]),
     part (fun ps _ => .argument (.positional (firstTerm ps) false))
       (collapse (.seq (.rule .namedTest) (opt (.rule .comprehension))))]

/-- Arguments in parentheses, the last perhaps with a comma. -/
def arguments : Syn :=
  part? (fun ps => (splitArguments (argumentsOf ps)).map fun (args, keywords) _ => .callOf args keywords)
    (inParens (opt (commaList argument)))

/-- A place or a range in a subscript. -/
def subscriptItem : Syn :=
  let range := .all [colon, opt (.rule .test), opt (.seq colon (opt (.rule .test)))]
  .alt (other range)
    (part? (fun ps =>
      if ps.length = 1 ∨ (shapesOf ps).head? = some .plain then some fun text => .term (.other text) .plain else none)
      (.seq (.rule .starOrNamed) (opt range)))

/-- What can follow an operand: arguments, a subscript, or a name after a dot. -/
def suffix : Syn :=
  oneOf
    [arguments,
     part (fun _ _ => .subscriptOf) (inBrackets (commaList subscriptItem)),
     part (fun ps _ => .memberOf ((namesOf ps).headD "")) (.seq (op ".") identifier)]

/-- An expression with what follows it. -/
def attach (base suffix : Part) : Part :=
  let text := base.text ++ suffix.gap ++ suffix.text
  let t := base.term?.getD .none
  let t' := match suffix.value with
    | .callOf args keywords => .call text t args keywords
    | .memberOf name => .member text t name
    | _ => .subscript text t
  { base with text, value := .term t' .plain }

/-- Attach the suffixes to the first part. -/
def suffixed (p : Syn) : Syn :=
  .build (fun ps => match ps with
    | [] => none
    | base :: suffixes => some [suffixes.foldl attach base]) p

/-! ## Displays -/

/-- A list of elements: one alone stands for itself, several or one with a comma are a tuple. -/
def tupleOf (ps : List Part) : List Part :=
  match ps with
  | [q] => [q]
  | _ => joinParts ps fun _ => .term (.sequence (termsOf ps)) .plain

/-- Elements between commas without brackets. -/
def bareTuple (p : Syn) : Syn := .build (fun ps => some (tupleOf ps)) (commaList p)

/-- Does a generator stand among parts? -/
def hasGenerator (ps : List Part) : Bool :=
  ps.any fun p => match p.value with
    | .generator => true
    | _ => false

/-- An element, then a generator or more elements. -/
def elements (p : Syn) : Syn :=
  .seq p (.alt (.rule .comprehension) (.seq (.star (.seq comma p)) (opt comma)))

/-- An expression of which only the text is kept. -/
def otherTerm (text : String) : Value := .term (.other text) .plain

/-- The value in parentheses: one expression, a generator or a tuple. What is starred does not stand alone. -/
def parenthesizedValue (ps : List Part) : Option (String → Value) :=
  if hasGenerator ps then if (shapesOf ps).head? = some .starred then none else some otherTerm
  else if ps.length = 3 then
    if (shapesOf ps).head? = some .starred then none else some fun _ => .term (firstTerm ps) .plain
  else some fun _ => .term (.sequence (termsOf ps)) .plain

/-- Parentheses and what is in them. -/
def parenthesized : Syn :=
  oneOf
    [part (fun _ _ => .term (.sequence []) .plain) (.seq (op "(") (op ")")),
     part (fun ps _ => .term (firstTerm ps) .plain) (inParens (.rule .yieldExpression)),
     part? parenthesizedValue (inParens (elements (.rule .starOrNamed)))]

/-- A list, by its elements or by a generator. -/
def listDisplay : Syn :=
  part (fun ps text => if hasGenerator ps then otherTerm text else .term (.sequence (termsOf ps)) .plain)
    (inBrackets (opt (elements (.rule .starOrNamed))))

/-- An element of a set or an entry of a dictionary. -/
def braceElement : Syn :=
  .alt (part (fun _ _ => .unpacking) (.seq (op "**") (.rule .expression)))
    (.build (fun ps => some (match ps with
      | [q] => [q]
      | _ => joinParts ps fun _ => .entry ((shapesOf ps).headD .plain)))
      (.seq (.rule .starOrNamed) (opt (.seq colon (.rule .test)))))

/-- The entries among parts, by the shapes of their keys. -/
def entriesOf (ps : List Part) : List Shape :=
  ps.filterMap fun p => match p.value with
    | .entry shape => some shape
    | _ => none

/-- Is a mapping taken over among parts? -/
def hasUnpacking (ps : List Part) : Bool :=
  ps.any fun p => match p.value with
    | .unpacking => true
    | _ => false

/-- A dictionary or a set, listed or generated. The keys of a dictionary are plain. -/
def braceValue (ps : List Part) : Option (String → Value) :=
  let keys := entriesOf ps
  let isMapping := hasUnpacking ps || !keys.isEmpty
  if hasGenerator ps then
    if hasUnpacking ps || keys.any (· != .plain) || (shapesOf ps).head? = some .starred then none else some otherTerm
  else if isMapping then
    if (termsOf ps).isEmpty && keys.all (· == .plain) then some otherTerm else none
  else if (termsOf ps).isEmpty then some otherTerm
  else some fun _ => .term (.sequence (termsOf ps)) .plain

/-- A dictionary or a set. -/
def braceDisplay : Syn := part? braceValue (inBraces (opt (elements braceElement)))

/-! ## Operands -/

/-- An operand without what follows it. -/
def atom : Syn :=
  oneOf
    [part (fun _ text => .term (.name text) .plain) identifier,
     .terminal .strings,
     part (fun _ text => .term (.number text) .plain) (.terminal .number),
     parenthesized,
     listDisplay,
     braceDisplay,
     part (fun _ _ => .term (.bool true) .plain) (kw "True"),
     part (fun _ _ => .term (.bool false) .plain) (kw "False"),
     part (fun _ _ => .term .none .plain) (kw "None"),
     other (op "...")]

/-- An operand without signs. -/
def primaryRule : Syn := suffixed (.seq atom (.star suffix))

/-- An operand with its signs and its power. -/
def factorRule : Syn :=
  collapse <| .alt (.seq (oneOf (["+", "-", "~"].map op)) (.rule .factor))
    (.seq (.alt (.seq (kw "await") (.rule .primary)) (.rule .primary)) (opt (.seq (op "**") (.rule .factor))))

/-- An operator between two operands. -/
def arithmeticOperator : Syn := oneOf (["|", "^", "&", "<<", ">>", "+", "-", "*", "/", "//", "%", "@"].map op)

/-- An operator that compares; some are two words. -/
def comparisonOperator : Syn :=
  oneOf (["==", "!=", "<", "<=", ">", ">="].map op ++
    [kw "in", .seq (kw "not") (kw "in"), .seq (kw "is") (opt (kw "not"))])

/-- Operands between arithmetic operators. -/
def expressionRule : Syn := collapse (.sepBy1 (.rule .factor) arithmeticOperator)

/-- Expressions that are compared, perhaps denied. -/
def comparison : Syn := .seq (.star (kw "not")) (.sepBy1 (.rule .expression) comparisonOperator)

/-- Comparisons between the words that connect them. -/
def orTestRule : Syn := collapse (.sepBy1 comparison (.alt (kw "and") (kw "or")))

/-- A lambda or a condition, with a choice after it or not. -/
def testRule : Syn :=
  .alt (.rule .lambda)
    (collapse (.seq (.rule .orTest) (opt (.all [kw "if", .rule .orTest, kw "else", .rule .test]))))

/-- An expression that may bind a name on the side. -/
def namedTestRule : Syn :=
  .alt (part (fun _ text => .term (.other text) .named) (.all [identifier, op ":=", .rule .test])) (.rule .test)

/-- An expression whose elements are taken over. -/
def starredExpression : Syn :=
  part (fun _ text => .term (.other text) .starred) (.seq (op "*") (.rule .expression))

/-- An element of a display. -/
def starOrNamedRule : Syn := .alt starredExpression (.rule .namedTest)

/-- The targets of a loop. -/
def targetList : Syn := bareTuple (.alt starredExpression (.rule .expression))

/-- The value of a statement, a tuple without parentheses or not. -/
def testListRule : Syn := bareTuple (.alt starredExpression (.rule .test))

/-- The value that a generator gives out. -/
def yieldExpressionRule : Syn :=
  other (.seq (kw "yield") (.alt (.seq (kw "from") (.rule .test)) (opt (.rule .testList))))

/-- The loops and conditions of a generator. -/
def comprehensionRule : Syn :=
  part (fun _ _ => .generator) <| .some <| .all
    [opt (kw "async"), kw "for", targetList, kw "in", .rule .orTest, .star (.seq (kw "if") (.rule .orTest))]

/-! ## Parameters -/

/-- The parameters among parts. -/
def parametersOf (ps : List Part) : List Parameter :=
  ps.filterMap fun p => match p.value with
    | .parameter q => some q
    | _ => none

/-- The name of a parameter. -/
def Parameter.name? : Parameter → Option String
  | plain name _ => some name
  | slash => none
  | star name => name
  | doubleStar name => name

/-- Are the parameters after a star in order: plain ones, then perhaps one that takes all other keywords? -/
def keywordParametersOk : List Parameter → Bool
  | [] => true
  | [.doubleStar _] => true
  | .plain _ _ :: ps => keywordParametersOk ps
  | _ => false

/-- Are the parameters in order? `isFirst` says that none came before, `slashed` that a slash did, `defaulted` that
one with a default did. A star without a name needs something after it. -/
def parametersOk : Bool → Bool → Bool → List Parameter → Bool
  | _, _, _, [] => true
  | isFirst, slashed, defaulted, p :: ps =>
    match p with
    | .plain _ hasDefault => (hasDefault || !defaulted) && parametersOk false slashed hasDefault ps
    | .slash => !isFirst && !slashed && parametersOk false true defaulted ps
    | .star name => (name.isSome || !ps.isEmpty) && keywordParametersOk ps
    | .doubleStar _ => ps.isEmpty

/-- Accept parameters in order, with no name twice. -/
def checkParameters (ps : List Parameter) : Bool :=
  parametersOk true false false ps && (ps.filterMap Parameter.name?).Nodup

/-- Parameters between commas. `typed` and `starTyped` come after the names. -/
def parameters (typed starTyped : Syn) : Syn :=
  let parameter : Syn := oneOf
    [part (fun ps _ => .parameter (.doubleStar (namesOf ps).head?)) (.seq (op "**") (opt (.seq identifier typed))),
     part (fun ps _ => .parameter (.star (namesOf ps).head?)) (.seq (op "*") (opt (.seq identifier starTyped))),
     part (fun _ _ => .parameter .slash) (op "/"),
     part (fun ps _ => .parameter (.plain ((namesOf ps).headD "") (ps.any fun p => p.text == "=")))
       (.all [identifier, typed, opt (.seq (op "=") (.rule .test))])]
  part? (fun ps => if checkParameters (parametersOf ps) then some fun _ => .token else none) (commaList parameter)

/-- A lambda, of which only the text is kept. -/
def lambdaRule : Syn := other (.all [kw "lambda", opt (parameters .empty .empty), colon, .rule .test])

end ConfigCoverage.Python
