import ConfigCoverage.Binding
import ConfigCoverage.Java.Tree

/-!
# From Java trees to programs

The methods of a source file are those of its classes, interfaces, enums and records, nested ones included. A branch or
a loop becomes a block of the statements it owns.

* `lowerStmt`: the statements of a node that stands in a block.
* `nestedStmts`: the statements that the children of a compound statement own.
* `collectMethods`: the methods below a node.
-/

namespace ConfigCoverage.Java

/-- Statements that own statements. -/
def Kind.isCompound : Kind → Bool
  | .ifStatement | .whileStatement | .forStatement | .enhancedForStatement | .doStatement | .tryStatement
  | .tryWithResourcesStatement | .synchronizedStatement | .labeledStatement | .switchExpression => true
  | _ => false

/-- What stands between a compound statement and the statements it owns. -/
def Kind.isClause : Kind → Bool
  | .catchClause | .finallyClause | .switchBlock | .switchGroup | .switchRule => true
  | _ => false

/-- Declarations of types with methods. -/
def Kind.isTypeDeclaration : Kind → Bool
  | .classDeclaration | .interfaceDeclaration | .enumDeclaration | .recordDeclaration => true
  | _ => false

/-- Bodies of types. -/
def Kind.isTypeBody : Kind → Bool
  | .classBody | .interfaceBody | .enumBody | .enumBodyDeclarations => true
  | _ => false

/-! ## Expressions -/

/-- The kind of literal that a node of a kind is. -/
def Kind.literal? : Kind → Option LiteralKind
  | .string => some .str
  | .character => some .char
  | .boolean => some .bool
  | .null => some .null
  | .number => some .number
  | _ => none

mutual

/-- The expression of a node. -/
def lowerExpr : Node → Expr
  | .leaf kind _ piece =>
    match kind with
    | .identifier => .name piece.text
    | _ =>
      match kind.literal? with
      | some k => .literal k piece.text
      | none => .other piece.text
  | .branch kind label cs =>
    let node := Node.branch kind label cs
    match kind with
    | .identifier => .name node.text
    | .parenthesized => (lowerFirst cs).getD (.other node.text)
    | .objectCreation =>
      match node.child? .type with
      | some t => .new t.text (lowerArguments cs)
      | none => .other node.text
    | .methodInvocation =>
      match node.child? .name with
      | some name => .call (lowerLabeled .object cs) name.text (lowerArguments cs)
      | none => .other node.text
    | .fieldAccess =>
      match lowerLabeled .object cs, node.child? .field with
      | some object, some field => .field object field.text
      | _, _ => .other node.text
    | .arrayInitializer => .array (lowerAll cs)
    | .arrayCreation =>
      match lowerValues cs with
      | some items => .array items
      | none => .other node.text
    | _ =>
      match kind.literal? with
      | some k => .literal k node.text
      | none => .other node.text

/-- The expression of the first child that is more than a token. -/
def lowerFirst : List Node → Option Expr
  | [] => none
  | c :: cs => if c.isNamed then some (lowerExpr c) else lowerFirst cs

/-- The expression of the first child with a label. -/
def lowerLabeled (l : Label) : List Node → Option Expr
  | [] => none
  | c :: cs => if c.label = some l then some (lowerExpr c) else lowerLabeled l cs

/-- The expressions of the children, comments left out. -/
def lowerAll : List Node → List Expr
  | [] => []
  | c :: cs => if c.isNamed && !c.isComment then lowerExpr c :: lowerAll cs else lowerAll cs

/-- The expressions of the arguments among the children. -/
def lowerArguments : List Node → List Expr
  | [] => []
  | c :: cs => if c.label = some .arguments then lowerItems c else lowerArguments cs

/-- The expressions of the elements of the value among the children. -/
def lowerValues : List Node → Option (List Expr)
  | [] => none
  | c :: cs => if c.label = some .value then some (lowerItems c) else lowerValues cs

/-- The expressions of the children of a node. -/
def lowerItems : Node → List Expr
  | .leaf _ _ _ => []
  | .branch _ _ cs => lowerAll cs

end

/-! ## Statements -/

/-- The statement of the expression in an expression statement. An assignment that shows no operator is a plain one. -/
def lowerExprStmt (e : Node) : Stmt :=
  if e.kind = .assignment then
    match ((e.child? .operator).map Node.text).getD "=", e.child? .left, e.child? .right with
    | "=", some left, some right => .assign (lowerExpr left) (lowerExpr right)
    | _, _, _ => .other
  else .expr (lowerExpr e)

/-- The declarations of the variables that a declaration declares, one for each declarator. -/
def lowerLocal (n : Node) : List Stmt :=
  let declaredType := (n.child? .type).map Node.text
  (n.children.filter fun c => c.label == some .declarator).filterMap fun d =>
    (d.child? .name).map fun name => .localDecl name.text declaredType ((d.child? .value).map lowerExpr)

/-- The declarations of the resources that a `try` declares; a resource that exists before declares nothing. -/
def lowerResources (n : Node) : List Stmt :=
  (n.children.filter fun c => c.kind == .resource).filterMap fun r =>
    match r.child? .name, r.child? .value with
    | some name, some value => some (.localDecl name.text ((r.child? .type).map Node.text) (some (lowerExpr value)))
    | _, _ => none

mutual

/-- The statements of a node that stands in a block. -/
def lowerStmt : Node → List Stmt
  | .leaf kind _ _ => if kind = .token ∨ kind = .comment then [] else [.other]
  | .branch kind label cs =>
    match kind with
    | .token => []
    | .comment => []
    | .localVariableDeclaration => lowerLocal (.branch kind label cs)
    | .expressionStatement =>
      match (Node.branch kind label cs).namedChildren with
      | [] => []
      | e :: _ => [lowerExprStmt e]
    | .block => [.block (lowerStmts cs)]
    | _ => if kind.isCompound then [.block (nestedStmts cs)] else [.other]

/-- The statements of the children of a block. -/
def lowerStmts : List Node → List Stmt
  | [] => []
  | c :: cs => lowerStmt c ++ lowerStmts cs

/-- The statements that a child of a compound statement owns. -/
def nestedStmt : Node → List Stmt
  | .leaf _ _ _ => []
  | .branch kind label cs =>
    match kind with
    | .block => [.block (lowerStmts cs)]
    | .localVariableDeclaration => lowerLocal (.branch kind label cs)
    | .expressionStatement =>
      match (Node.branch kind label cs).namedChildren with
      | [] => []
      | e :: _ => [lowerExprStmt e]
    | .resourceSpecification => lowerResources (.branch kind label cs)
    | _ =>
      if kind.isCompound then [.block (nestedStmts cs)]
      else if kind.isClause then nestedStmts cs
      else []

/-- The statements that the children of a compound statement own. -/
def nestedStmts : List Node → List Stmt
  | [] => []
  | c :: cs => nestedStmt c ++ nestedStmts cs

end

/-! ## Methods -/

/-- The simple names of the annotations of a declaration. -/
def markers (n : Node) : List String :=
  (n.children.filter fun c => c.kind == .modifiers).flatMap fun m =>
    (m.children.filter fun a => a.kind == .simpleMarker || a.kind == .argumentMarker).filterMap fun a =>
      (a.child? .name).map fun name => lastSegment name.text

/-- The method of a declaration. -/
def lowerMethod (n : Node) : Option Method :=
  (n.child? .name).map fun name =>
    ⟨name.text, markers n, ((n.child? .body).map fun b => lowerStmts b.children).getD [], name.row + 1⟩

mutual

/-- The methods that a child of a type or of the program contributes. -/
def collectMethods : Node → List Method
  | .leaf _ _ _ => []
  | .branch kind label cs =>
    if kind = .methodDeclaration then (lowerMethod (.branch kind label cs)).toList
    else if kind.isTypeDeclaration then collectBody cs
    else if kind.isTypeBody then collectAll cs
    else []

/-- The methods of all children. -/
def collectAll : List Node → List Method
  | [] => []
  | c :: cs => collectMethods c ++ collectAll cs

/-- The methods in the body of a declaration. -/
def collectBody : List Node → List Method
  | [] => []
  | c :: cs => if c.label = some .body then collectChildren c else collectBody cs

/-- The methods of the children of a node. -/
def collectChildren : Node → List Method
  | .leaf _ _ _ => []
  | .branch _ _ cs => collectAll cs

end

/-- The program of a tree. -/
def lowerFile (name : String) (root : Node) : SourceFile := ⟨name, collectAll root.children⟩

end ConfigCoverage.Java
