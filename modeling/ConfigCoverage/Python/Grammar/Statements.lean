import ConfigCoverage.Python.Grammar.Patterns

/-!
# Python statements
-/

namespace ConfigCoverage.Python

open Peg

/-! ## Simple statements -/

/-- An operator that changes its target. -/
def augmentedOperator : Syn :=
  oneOf (["+=", "-=", "*=", "@=", "/=", "%=", "&=", "|=", "^=", "<<=", ">>=", "**=", "//="].map op)

/-- What can stand after an equals sign. -/
def assigned : Syn := .alt (.rule .yieldExpression) (.rule .testList)

/-- The value of a chain of assignments is its last term. -/
def assignment (ps : List Part) : Statement :=
  match (termsOf ps).reverse with
  | [] => .other
  | [t] => .expression t
  | value :: targets => .assign targets.reverse value

/-- A target, its type, and perhaps its value. -/
def declaration (ps : List Part) : Statement :=
  match termsOf ps with
  | target :: type :: rest => .annotated target type rest.head?
  | _ => .other

/-- A declaration has one value at most, a chain of assignments any number of targets. -/
def expressionStatement : Syn :=
  oneOf
    [stmt declaration (.all [.rule .test, colon, .rule .test, opt (.seq (op "=") assigned)]),
     .build (fun ps =>
        some [⟨"", "", 0, .statement (if statementsOf ps = [] then assignment ps else .other)⟩])
       (.seq (.rule .testList) (.alt (otherStmt (.seq augmentedOperator assigned)) (.star (.seq (op "=") assigned))))]

/-- The dots before a relative module; three in a row are one token. -/
def dots : Syn := .alt (op ".") (op "...")

/-- An import of modules, or of names from one. -/
def importStatement : Syn :=
  let renamed := fun (p : Syn) => Peg.seq p (opt (.seq (kw "as") identifier))
  let names := oneOf
    [op "*", inParens (commaList (renamed identifier)), .sepBy1 (renamed identifier) comma]
  .alt (.seq (kw "import") (.sepBy1 (renamed dottedName) comma))
    (.all [kw "from", .alt (.seq (.star dots) dottedName) (.some dots), kw "import", names])

/-- The type variables of a definition. -/
def typeParameters : Syn :=
  inBrackets (commaList (oneOf
    [.seq (op "**") identifier, .seq (op "*") identifier, .seq identifier (opt (.seq colon (.rule .test)))]))

/-- A statement without a suite. The forms with a keyword come first. -/
def smallStatement : Syn :=
  oneOf
    [otherStmt (oneOf
      [kw "pass", kw "break", kw "continue",
       .seq (kw "return") (opt (.rule .testList)),
       .seq (kw "raise") (opt (.seq (.rule .test) (opt (.seq (kw "from") (.rule .test))))),
       importStatement,
       .seq (.alt (kw "global") (kw "nonlocal")) (.sepBy1 identifier comma),
       .all [kw "assert", .rule .test, opt (.seq comma (.rule .test))],
       .seq (kw "del") (commaList (.alt starredExpression (.rule .expression))),
       .all [kw "type", identifier, opt typeParameters, op "=", .rule .test]]),
     stmt assignment (.rule .yieldExpression),
     expressionStatement]

/-- Statements on one line. -/
def simpleStatement : Syn := .all [.sepBy1 smallStatement (op ";"), opt (op ";"), newline]

/-! ## Compound statements -/

/-- What a colon starts: the rest of the line, or an indented block. -/
def suiteRule : Syn :=
  .alt simpleStatement (.all [newline, .terminal .indent, .some (.rule .statement), .terminal .dedent])

/-- What is run if a loop was not left or a condition does not hold. -/
def elseSuite : Syn := opt (.seq (kw "else") (suiteAs .orelse))

/-- What follows the body of an `if`. A further condition is an `if` of its own in the other branch. -/
def ifRestRule : Syn :=
  .alt
    (.build (fun ps =>
        some [⟨"", "", 0, .suite .orelse [.ifElse (suiteOf .body ps) (suiteOf .orelse ps)]⟩])
      (.all [kw "elif", .rule .namedTest, suiteAs .body, .rule .ifRest]))
    elseSuite

/-- A branch. -/
def ifStatement : Syn :=
  stmt (fun ps => .ifElse (suiteOf .body ps) (suiteOf .orelse ps))
    (.all [kw "if", .rule .namedTest, suiteAs .body, .rule .ifRest])

/-- A loop with a condition. -/
def whileStatement : Syn :=
  stmt (fun ps => .whileLoop (suiteOf .body ps) (suiteOf .orelse ps))
    (.all [kw "while", .rule .namedTest, suiteAs .body, elseSuite])

/-- A loop over the elements of a value. -/
def forStatement : Syn :=
  stmt (fun ps => .forLoop (suiteOf .body ps) (suiteOf .orelse ps))
    (.all [opt (kw "async"), kw "for", targetList, kw "in", .rule .testList, suiteAs .body, elseSuite])

/-- The handlers of a `try`; `star` comes before the exceptions of each. -/
def handlers (exceptions : Syn) : Syn := .some (.all [kw "except", exceptions, suiteAs .handler])

/-- A `try` with handlers, all of them of one form, or with an end alone. -/
def tryStatement : Syn :=
  let caught := .seq (.rule .test) (opt (.seq (kw "as") identifier))
  let final := .seq (kw "finally") (suiteAs .final)
  let ending := .seq elseSuite (opt final)
  let grouped := .build (fun ps => some [⟨"", "", 0, .statement
      (.tryGroup (suiteOf .body ps) (suitesOf .handler ps) (suiteOf .orelse ps) (suiteOf .final ps))⟩])
    (.seq (handlers (.seq (op "*") caught)) ending)
  .build (fun ps => some [⟨"", "", 0, .statement
      (match statementsOf ps with
        | [.tryGroup _ hs orelse final] => .tryGroup (suiteOf .body ps) hs orelse final
        | _ => .tryBlock (suiteOf .body ps) (suitesOf .handler ps) (suiteOf .orelse ps) (suiteOf .final ps))⟩])
    (.all [kw "try", suiteAs .body, oneOf [grouped, .seq (handlers (opt caught)) ending, final]])

/-- A context, perhaps with a target. -/
def withItem : Syn :=
  part (fun ps _ => .item (firstTerm ps) ((termsOf ps).drop 1).head?)
    (.seq (.rule .test) (opt (.seq (kw "as") (.rule .expression))))

/-- The contexts among parts. -/
def itemsOf (ps : List Part) : List (Term × Option Term) :=
  ps.filterMap fun p => match p.value with
    | .item context target => some (context, target)
    | _ => none

/-- Parentheses around all contexts are not those of a tuple. -/
def withStatement : Syn :=
  let items := .alt (.seq (inParens (commaList withItem)) (.ahead colon)) (.sepBy1 withItem comma)
  stmt (fun ps => .withBlock (itemsOf ps) (suiteOf .body ps))
    (.all [opt (kw "async"), kw "with", items, suiteAs .body])

/-- A `match` with its cases. -/
def matchStatement : Syn :=
  let guard := opt (.seq (kw "if") (.rule .namedTest))
  let caseBlock := .all [kw "case", commaList (.rule .pattern), guard, suiteAs .handler]
  stmt (fun ps => .matchBlock (suitesOf .handler ps))
    (.all [kw "match", commaList (.rule .starOrNamed), colon, newline, .terminal .indent, .some caseBlock,
      .terminal .dedent])

/-! ## Definitions -/

/-- A decorator, on a line of its own. -/
def decorator : Syn :=
  part (fun ps _ => .decorator (firstTerm ps)) (.all [op "@", .rule .namedTest, newline])

/-- The decorators among parts. -/
def decoratorsOf (ps : List Part) : List Term :=
  ps.filterMap fun p => match p.value with
    | .decorator t => some t
    | _ => none

/-- A function; its row is that of its first word. -/
def functionDefinition : Syn :=
  let typed := opt (.seq colon (.rule .test))
  let starTyped := opt (.seq colon (.alt starredExpression (.rule .test)))
  .build (fun ps => some [⟨"", "", (ps.head?.map Part.row).getD 0,
      .statement (.function [] ((namesOf ps).headD "") (suiteOf .body ps) ((ps.head?.map Part.row).getD 0))⟩])
    (.all [opt (kw "async"), kw "def", identifier, opt (part (fun _ _ => .token) typeParameters),
      inParens (opt (parameters typed starTyped)), opt (.seq (op "->") (.rule .test)), suiteAs .body])

/-- A class. -/
def classDefinition : Syn :=
  stmt (fun ps => .classDef (suiteOf .body ps))
    (.all [kw "class", identifier, opt (part (fun _ _ => .token) typeParameters), opt arguments, suiteAs .body])

/-- A function or a class with its decorators. -/
def definition : Syn :=
  stmt (fun ps => match statementsOf ps with
    | [.function _ name body row] => .function (decoratorsOf ps) name body row
    | [s] => s
    | _ => .other)
    (.seq (.star decorator) (.alt functionDefinition classDefinition))

/-- A statement. The forms with a suite come first. -/
def statementRule : Syn :=
  oneOf
    [ifStatement, forStatement, whileStatement, tryStatement, withStatement, definition, matchStatement,
     simpleStatement]

/-- A source file, to its end. -/
def sourceRule : Syn := .seq (.star (.alt newline (.rule .statement))) (.terminal .endOfSource)

/-- An expression inside a formatted string, which is read in parentheses. -/
def embeddedRule : Syn := .all [.rule .testList, .star newline, .terminal .endOfSource]

end ConfigCoverage.Python
