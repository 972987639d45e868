import ConfigCoverage.Java.Grammar.Expressions

/-!
# Statements

Every statement form with its own keyword comes before declarations of variables and expressions, and neither of these
starts with such a keyword.
-/

namespace ConfigCoverage.Java

open Peg

/-- The words that start no type and no expression where a statement is expected. -/
def statementWords : List String :=
  ["if", "while", "for", "do", "return", "break", "continue", "throw", "try", "assert", "class", "interface", "enum",
    "import", "package", "case"] ++ modifierWords

/-- Refuse what starts a statement of another form. -/
def noStatementWord : Syn := .absent (.terminal (.anyWord statementWords))

/-- Statements in braces. -/
def blockRule : Syn := node .block (inBraces (.star (.rule .statement)))

/-! ## Declarations of variables -/

/-- The name of a variable, perhaps with the brackets of an array. -/
def declaratorId : Syn := .seq (label .name (name .declared)) (opt (.rule .dimensions))

/-- The value of a variable. The elements of an array may stand without `new`. -/
def variableInitializerRule : Syn := .alt (.rule .arrayInitializer) (.rule .expression)

/-- A variable of a declaration, with its value. -/
def variableDeclaratorRule : Syn :=
  node .variableDeclarator (.seq declaratorId (opt (.seq (sym "=") (label .value (.rule .variableInitializer)))))

/-- The variables of a declaration. -/
def declarators : Syn := sepBy1 (label .declarator (.rule .variableDeclarator)) (sym ",")

/-- Modifiers, if there are any. -/
def modifiersOpt : Syn := opt (.rule .modifiers)

/-- A type and a name with what may follow the name in a declaration. -/
def declarationAhead : Syn :=
  .ahead (.all [modifiersOpt, .absent (.terminal (.anyWord (statementWords ++ ["yield", "record"]))), .rule .plainType,
    name .declared, oneOf (["=", ";", ",", "[", "@"].map sym)])

/-- A declaration of local variables. -/
def localVariableDeclarationRule : Syn :=
  .seq declarationAhead
    (node .localVariableDeclaration (.all [modifiersOpt, label .type (.rule .plainType), declarators, sym ";"]))

/-! ## Loops and branches -/

/-- A branch. -/
def ifStatement : Syn :=
  node .ifStatement (.all [word "if", parenthesized, .rule .statement, opt (.seq (word "else") (.rule .statement))])

/-- A loop with the condition before its body. -/
def whileStatement : Syn := node .whileStatement (.all [word "while", parenthesized, .rule .statement])

/-- A loop with the condition after its body. -/
def doStatement : Syn :=
  node .doStatement (.all [word "do", .rule .statement, word "while", parenthesized, sym ";"])

/-- A loop over the elements of a value. -/
def enhancedForStatement : Syn :=
  node .enhancedForStatement (.all [word "for", sym "(", modifiersOpt, .rule .plainType, declaratorId, sym ":",
    .rule .expression, sym ")", .rule .statement])

/-- A loop with a counter. The beginning is a declaration or a row of expressions. -/
def forStatement : Syn :=
  node .forStatement (.all [word "for", sym "(",
    .alt (.rule .localVariableDeclaration) (.seq (sepBy (.rule .expression) (sym ",")) (sym ";")),
    opt (.rule .expression), sym ";", sepBy (.rule .expression) (sym ","), sym ")", .rule .statement])

/-- A statement with a name to jump to. -/
def labeledStatement : Syn := node .labeledStatement (.all [name .expression, sym ":", .rule .statement])

/-- A block that one thread at a time runs. -/
def synchronizedStatement : Syn := node .synchronizedStatement (.all [word "synchronized", parenthesized, .rule .block])

/-! ## Handlers -/

/-- A handler of one or more types of exceptions. -/
def catchClause : Syn :=
  node .catchClause (.all [word "catch",
    inParens (.all [modifiersOpt, node .other (sepBy1 (.rule .plainType) (sym "|")), declaratorId]), .rule .block])

/-- What is run in the end. -/
def finallyClause : Syn := node .finallyClause (.seq (word "finally") (.rule .block))

/-- A resource of a `try`: a variable that is declared for it, or one that exists before. -/
def resource : Syn :=
  node .resource <| .alt
    (.all [modifiersOpt, label .type (.rule .plainType), declaratorId, sym "=", label .value (.rule .expression)])
    (onlyKinds [.identifier, .fieldAccess] (.rule .primary))

/-- The resources of a `try`, the last perhaps with a semicolon. -/
def resources : Syn :=
  node .resourceSpecification (inParens (.seq (sepBy1 resource (sym ";")) (opt (sym ";"))))

/-- A `try` with handlers or an end, or with resources, which needs neither. -/
def tryStatement : Syn :=
  .alt
    (node .tryStatement (.all [word "try", .rule .block,
      .alt (.seq (Peg.some catchClause) (opt finallyClause)) finallyClause]))
    (node .tryWithResourcesStatement (.all [word "try", resources, .rule .block, .star catchClause, opt finallyClause]))

/-! ## Other statements -/

/-- A jump out of a loop or to its next round, perhaps by a name. -/
def jump (keyword : String) : Syn := node .other (.all [word keyword, opt (name .free), sym ";"])

/-- The end of a method. -/
def returnStatement : Syn := node .other (.all [word "return", opt (.rule .expression), sym ";"])

/-- The value of a branch of a `switch`. -/
def yieldStatement : Syn := node .other (.all [word "yield", .rule .expression, sym ";"])

/-- An assertion, perhaps with a message. -/
def assertStatement : Syn :=
  node .other (.all [word "assert", .rule .expression, opt (.seq (sym ":") (.rule .expression)), sym ";"])

/-- A `switch` by itself, not at the front of a longer expression. -/
def switchStatement : Syn := .seq (.rule .switchExpression) (.absent (oneOf [binaryOperator, postfixOperator, sym "?"]))

/-- A statement. The order of the forms decides between those that begin alike. -/
def statementRule : Syn :=
  oneOf [sym ";", .rule .block, ifStatement, whileStatement, doStatement, enhancedForStatement, forStatement,
    returnStatement, jump "break", jump "continue", throwStatement, tryStatement, synchronizedStatement,
    switchStatement, assertStatement, yieldStatement, .rule .typeDeclaration, .rule .unitDeclaration,
    .rule .localVariableDeclaration, .seq noStatementWord (.alt labeledStatement expressionStatement)]

end ConfigCoverage.Java
