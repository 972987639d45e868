import ConfigCoverage.Java.Token

/-!
# Java syntax trees

The leaves of a tree are the tokens and comments of a source text with the gaps before them, so the text of a node is
spelled by its leaves. A comment is a child of the smallest node around it, between the other children.

* `Node.text`: the text of a node, from its first to its last leaf.
* `Node.child?`: the child with a label.
-/

namespace ConfigCoverage.Java

/-- The kinds of nodes. A `token` is a symbol or a keyword; `other` is any form that the analysis does not look into. -/
inductive Kind where
  | token
  | comment
  | program
  | identifier
  | number
  | character
  | string
  | boolean
  | null
  | modifiers
  | simpleMarker
  | argumentMarker
  | methodDeclaration
  | classDeclaration
  | interfaceDeclaration
  | enumDeclaration
  | recordDeclaration
  | classBody
  | interfaceBody
  | enumBody
  | enumBodyDeclarations
  | block
  | localVariableDeclaration
  | variableDeclarator
  | expressionStatement
  | ifStatement
  | whileStatement
  | forStatement
  | enhancedForStatement
  | doStatement
  | tryStatement
  | tryWithResourcesStatement
  | synchronizedStatement
  | labeledStatement
  | switchExpression
  | catchClause
  | finallyClause
  | switchBlock
  | switchGroup
  | switchRule
  | resourceSpecification
  | resource
  | assignment
  | parenthesized
  | objectCreation
  | methodInvocation
  | fieldAccess
  | arrayAccess
  | arrayInitializer
  | arrayCreation
  | argumentList
  | other
deriving DecidableEq, Repr, Inhabited

/-- What a child is to its parent. -/
inductive Label where
  | name
  | body
  | type
  | declarator
  | value
  | operator
  | left
  | right
  | arguments
  | object
  | field
deriving DecidableEq, Repr

/-- A node of a syntax tree. -/
inductive Node where
  | leaf (kind : Kind) (label : Option Label) (piece : Piece)
  | branch (kind : Kind) (label : Option Label) (children : List Node)
deriving Repr, Inhabited

namespace Node

/-- The kind of a node. -/
def kind : Node → Kind
  | leaf k _ _ => k
  | branch k _ _ => k

/-- What a node is to its parent. -/
def label : Node → Option Label
  | leaf _ l _ => l
  | branch _ l _ => l

/-- The children of a node. -/
def children : Node → List Node
  | leaf _ _ _ => []
  | branch _ _ cs => cs

/-- The node under another label. -/
def withLabel (l : Option Label) : Node → Node
  | leaf k _ p => leaf k l p
  | branch k _ cs => branch k l cs

/-- Is the node a comment? -/
def isComment (n : Node) : Bool := n.kind == .comment

/-- Is the node more than a symbol or a keyword? -/
def isNamed (n : Node) : Bool := n.kind != .token

/-- The children that are more than symbols and keywords. -/
def namedChildren (n : Node) : List Node := n.children.filter isNamed

/-- The first child with a label. -/
def child? (n : Node) (l : Label) : Option Node := n.children.find? fun c => c.label == some l

mutual

/-- The text of a node with the gap before it. -/
def spaced : Node → String
  | leaf _ _ p => p.gap ++ p.text
  | branch _ _ cs => spacedAll cs

/-- The texts of nodes with the gaps before them. -/
def spacedAll : List Node → String
  | [] => ""
  | c :: cs => c.spaced ++ spacedAll cs

end

mutual

/-- The text of a node. -/
def text : Node → String
  | leaf _ _ p => p.text
  | branch _ _ cs => textAll cs

/-- The text of nodes in a row. -/
def textAll : List Node → String
  | [] => ""
  | c :: cs => c.text ++ spacedAll cs

end

mutual

/-- The row in which a node starts. -/
def row : Node → Nat
  | leaf _ _ p => p.row
  | branch _ _ cs => rowAll cs

/-- The row in which the first of the nodes starts. -/
def rowAll : List Node → Nat
  | [] => 0
  | c :: _ => c.row

end

end Node

end ConfigCoverage.Java
