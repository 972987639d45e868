import ConfigCoverage.Java.Grammar.Types

/-!
# Expressions

An expression is a row of operands between operators. The analysis looks into an expression only if it is a single
operand, so operators are not grouped by precedence. In the label of a `switch` an arrow ends the label, so there a name
or a parenthesis before an arrow is no lambda.
-/

namespace ConfigCoverage.Java

open Peg

/-! ## Operators -/

/-- The sign that operators share with closing brackets of types, one token each. -/
def greater : Syn := sym ">"

/-- An operator between two operands. -/
def binaryOperator : Syn :=
  .alt (oneOf (["||", "&&", "==", "!=", "<=", "<<", "<", "+", "-", "*", "/", "%", "&", "|", "^"].map sym))
    (oneOf [.all [greater, joined ">", joined ">"], .seq greater (joined ">"), .seq greater (joined "="), greater])

/-- An operator that assigns, as one token. -/
def assignmentOperator : Syn :=
  node .token <| .alt (oneOf (["=", "+=", "-=", "*=", "/=", "&=", "|=", "^=", "%=", "<<="].map sym))
    (.alt (.all [greater, joined ">", joined ">", joined "="]) (.all [greater, joined ">", joined "="]))

/-- An operator before its operand. -/
def prefixOperator : Syn := oneOf (["+", "-", "!", "~", "++", "--"].map sym)

/-- An operator after its operand. -/
def postfixOperator : Syn := .alt (sym "++") (sym "--")

/-! ## Primary expressions -/

/-- The arguments of a call. -/
def argumentsRule : Syn := node .argumentList (inParens (sepBy (.rule .expression) (sym ",")))

/-- A string, or a template with expressions between its pieces. -/
def stringLiteral : Syn :=
  .alt (.terminal (.literal .string .string))
    (node .string (.all [.terminal (.literal .stringStart .token), .rule .expression,
      .star (.seq (.terminal (.literal .stringMiddle .token)) (.rule .expression)),
      .terminal (.literal .stringEnd .token)]))

/-- A literal, with the kind that it is lowered by. -/
def literal : Syn :=
  oneOf [.terminal (.literal .number .number), .terminal (.literal .character .character), stringLiteral,
    wordAs "true" .boolean, wordAs "false" .boolean, wordAs "null" .null]

/-- An expression in parentheses; also the condition of a statement. -/
def parenthesized : Syn := node .parenthesized (inParens (.rule .expression))

/-- The construction of an object, without what it is qualified by. -/
def objectCreation : Syn :=
  .all [word "new", annotations, opt (.seq (.rule .typeArguments) annotations), label .type (.rule .simpleType),
    label .arguments (.rule .arguments), opt (.rule .classBody)]

/-- The construction of an array, by its elements or by its lengths. -/
def arrayCreation : Syn :=
  .all [word "new", annotations, label .type (.rule .simpleType),
    .alt (.seq (.rule .dimensions) (label .value (.rule .arrayInitializer)))
      (.seq (Peg.some (.seq annotations (inBrackets (.rule .expression)))) (opt (.rule .dimensions)))]

/-- What `new` starts. -/
def creationRule : Syn := .alt (node .objectCreation objectCreation) (node .arrayCreation arrayCreation)

/-- The elements of an array in braces. -/
def arrayInitializerRule : Syn :=
  node .arrayInitializer (inBraces (sepByTrailing (.rule .variableInitializer) (sym ",")))

/-- A reference to a method or to a constructor, after what it belongs to. -/
def referencedMethod : Syn := .all [sym "::", opt (.rule .typeArguments), .alt (word "new") (name .free)]

/-- A type before `.class` or `::`. -/
def typeExpression : Syn :=
  .seq (.ahead (.seq (.rule .type) (.alt (sym "::") (.seq (sym ".") (word "class")))))
    (node .other (.seq (.rule .type) (.alt referencedMethod (.seq (sym ".") (word "class")))))

/-- What a primary expression starts with. A name before a parenthesis is that of a method. -/
def primaryStart : Syn :=
  oneOf [literal, parenthesized, .rule .creation, typeExpression, wordAs "this" .other,
    .seq (wordAs "super" .other) (.ahead (.alt (sym ".") (sym "::"))),
    node .methodInvocation (.seq (label .name (name .expression)) (label .arguments (.rule .arguments))),
    name .expression]

/-- The word that leads to a member of the class above. -/
def throughSuper : Syn := opt (.seq (wordAs "super" .other) (sym "."))

/-- What can follow a primary expression. A call comes before a field, which is its beginning. -/
def suffix : Syn :=
  oneOf [
    node .methodInvocation (.all [sym ".", throughSuper, opt (.rule .typeArguments), label .name (name .member),
      label .arguments (.rule .arguments)]),
    node .fieldAccess (.all [sym ".", throughSuper, label .field (.alt (name .member) (wordAs "this" .other))]),
    node .objectCreation (.seq (sym ".") objectCreation),
    node .other (.seq (sym ".") stringLiteral),
    node .arrayAccess (inBrackets (.rule .expression)),
    node .other referencedMethod]

/-- An expression without operators. -/
def primaryRule : Syn := suffixed (.seq primaryStart (.star suffix))

/-! ## Operands -/

/-- The parameters of a lambda without their types. -/
def inferredParameters : Syn := inParens (sepBy1 (name .expression) (sym ","))

/-- A lambda. It is told from other forms by the arrow after its parameters. -/
def lambda : Syn :=
  node .other <| .all [
    .alt (.seq (.ahead (.seq (name .expression) (sym "->"))) (name .expression))
      (.seq (.ahead (.seq (.terminal .parenthesized) (sym "->"))) (.alt inferredParameters (.rule .formalParameters))),
    sym "->", .alt (.rule .block) (.rule .expression)]

/-- The type of a cast, or all the types that it asks for. -/
def castType : Syn := inParens (sepBy1 (.rule .type) (sym "&"))

/-- A primary expression with what may follow it as an operand. -/
def plainOperand : Syn :=
  operandNode (.all [.rule .primary, .star postfixOperator,
    opt (.seq (label .operator assignmentOperator) (label .right (.rule .expression)))])

/-- An operand. A type in parentheses before a sign is read as a value, unless it can only be a type. -/
def operandWith (self : Syn) (lambdas : Bool) : Syn :=
  oneOf [
    if lambdas then lambda else refuse,
    node .other (.seq prefixOperator self),
    node .other (.all [castType, .absent (.alt prefixSign postfixOperator), self]),
    .rule .switchExpression,
    plainOperand,
    node .other (.seq castType self)]
where prefixSign : Syn := .alt (sym "+") (sym "-")

/-- An operand in most places. -/
def operandRule : Syn := operandWith (.rule .operand) true

/-- An operand in the label of a `switch`. -/
def labelOperandRule : Syn := operandWith (.rule .labelOperand) false

/-! ## Expressions -/

/-- A pattern that takes a record apart. -/
def recordPatternRule : Syn :=
  .all [name .pattern, opt (.star (.seq (sym ".") (name .member))), opt (.rule .typeArguments),
    inParens (sepBy (.alt (.rule .recordPattern) (.seq (.rule .plainType) (name .pattern))) (sym ","))]

/-- The test of a type, perhaps with a name for what passed it. -/
def typeTest : Syn :=
  .all [word "instanceof", opt (word "final"),
    .alt (.rule .recordPattern) (.seq (.rule .type) (opt (name .pattern)))]

/-- Operands between operators, perhaps with a choice after them that `self` ends. -/
def expressionWith (operand self : Syn) : Syn :=
  collapse (.all [operand, .star (.alt (.seq binaryOperator operand) typeTest),
    opt (.all [sym "?", .rule .expression, sym ":", self])])

/-- An expression in most places. -/
def expressionRule : Syn := expressionWith (.rule .operand) (.rule .expression)

/-- An expression in the label of a `switch`. -/
def labelExpressionRule : Syn := expressionWith (.rule .labelOperand) (.rule .labelExpression)

/-! ## Switches -/

/-- The condition of a label. -/
def guard : Syn := .seq (word "when") (.rule .labelExpression)

/-- A label: patterns, types or values, or what all others come to. -/
def switchLabelRule : Syn :=
  node .other <| .alt
    (.all [word "case",
      oneOf [.seq (.rule .recordPattern) (.ahead (oneOf [sym "->", sym ":", word "when"])),
        .seq (.rule .plainType) (name .pattern),
        sepBy1 (.rule .labelExpression) (sym ",")],
      opt guard])
    (word "default")

/-- An expression as a statement. -/
def expressionStatement : Syn := node .expressionStatement (.seq (.rule .expression) (sym ";"))

/-- The end of a method by an exception. -/
def throwStatement : Syn := node .other (.all [word "throw", .rule .expression, sym ";"])

/-- A branch after an arrow: one statement and no more. -/
def switchRule : Syn :=
  node .switchRule (.all [.rule .switchLabel, sym "->", oneOf [throwStatement, .rule .block, expressionStatement]])

/-- A branch after colons, which goes on into the next. -/
def switchGroup : Syn :=
  node .switchGroup (.seq (Peg.some (.seq (.rule .switchLabel) (sym ":"))) (.star (.rule .statement)))

/-- A `switch`, as an expression and as a statement. Its branches are all of one form. -/
def switchExpressionRule : Syn :=
  node .switchExpression (.all [word "switch", parenthesized,
    node .switchBlock (inBraces (.alt (Peg.some switchRule) (.star switchGroup)))])

end ConfigCoverage.Java
