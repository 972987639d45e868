import ConfigCoverage.Grammar
import ConfigCoverage.Java.Tree

/-!
# The parts of the Java grammar

Terminals, rule names, and the expressions that build nodes. A word of the language is reserved only where it can stand:
elsewhere it is a name like any other, so each place that takes a name says which words it gives up (`NamePlace`).
-/

namespace ConfigCoverage.Java

/-- The places of names. -/
inductive NamePlace where
  /-- At the start of an expression. -/
  | expression
  /-- After a dot. -/
  | member
  /-- After the type of a declaration. -/
  | declared
  /-- After the type of a pattern. -/
  | pattern
  /-- In a type. -/
  | type
  /-- After `import`. -/
  | imported
  /-- Where nothing but a name can stand. -/
  | free
deriving DecidableEq, Repr

/-- The words for the primitive types. -/
def primitiveTypes : List String :=
  ["byte", "short", "int", "long", "char", "float", "double", "boolean", "void"]

/-- The words that are no names at a place. -/
def NamePlace.reserved : NamePlace → List String
  | .expression => ["new", "this", "super", "switch", "true", "false", "null", "instanceof"] ++ primitiveTypes
  | .member => ["new", "class", "this", "super"]
  | .declared => ["instanceof"]
  | .pattern => ["when", "instanceof"]
  | .type => ["extends", "super", "class", "this", "new"] ++ primitiveTypes
  | .imported => ["static"]
  | .free => []

/-- What a terminal matches. -/
inductive Terminal where
  | symbol (text : String)
  /-- A symbol right after the token before it. -/
  | joinedSymbol (text : String)
  | word (text : String) (kind : Kind)
  /-- A word right after the token before it. -/
  | joinedWord (text : String)
  | anyWord (texts : List String)
  | name (place : NamePlace)
  | literal (token : TokenKind) (kind : Kind)
  /-- From an opening parenthesis to the closing one. -/
  | parenthesized
  | endOfSource

/-- The names of rules. -/
inductive Rule where
  | program
  | topLevel
  | type
  | plainType
  | simpleType
  | typeArguments
  | typeParameters
  | dimensions
  | marker
  | elementValue
  | modifiers
  | qualifiedName
  | expression
  | labelExpression
  | operand
  | labelOperand
  | primary
  | arguments
  | arrayInitializer
  | variableInitializer
  | variableDeclarator
  | formalParameters
  | creation
  | switchExpression
  | switchLabel
  | recordPattern
  | block
  | statement
  | localVariableDeclaration
  | classBody
  | classMember
  | interfaceBody
  | enumBody
  | annotationBody
  | typeDeclaration
  | unitDeclaration
  | methodDeclaration
deriving DecidableEq, Repr

/-- Expressions of the Java grammar. -/
abbrev Syn := Peg Terminal Rule Node

/-- A symbol. -/
def sym (text : String) : Syn := .terminal (.symbol text)

/-- A symbol with nothing between it and the token before. -/
def joined (text : String) : Syn := .terminal (.joinedSymbol text)

/-- A word of the language, kept as a token. -/
def word (text : String) : Syn := .terminal (.word text .token)

/-- A word of the language that is a node of its own. -/
def wordAs (text : String) (kind : Kind) : Syn := .terminal (.word text kind)

/-- A name, which may be any word that is not reserved at the place. -/
def name (place : NamePlace) : Syn := .terminal (.name place)

/-- The brace that opens a block or a body. -/
def openBrace : Syn := sym "\x7b"

/-- The brace that closes it. -/
def closeBrace : Syn := sym "\x7d"

/-- Something in parentheses. -/
def inParens (p : Syn) : Syn := .all [sym "(", p, sym ")"]

/-- Something in braces. -/
def inBraces (p : Syn) : Syn := .all [openBrace, p, closeBrace]

/-- Something in brackets. -/
def inBrackets (p : Syn) : Syn := .all [sym "[", p, sym "]"]

/-! ## Building nodes -/

/-- Put the nodes under one; comments before the first token stay outside. -/
def wrapNodes (kind : Kind) (ns : List Node) : List Node :=
  ns.takeWhile Node.isComment ++ [.branch kind none (ns.dropWhile Node.isComment)]

/-- A node of a kind. -/
def node (kind : Kind) (p : Syn) : Syn := .build (fun ns => some (wrapNodes kind ns)) p

/-- Give the nodes of `p` a label. -/
def label (l : Label) (p : Syn) : Syn :=
  .build (fun ns => some (ns.map fun n => if n.isComment then n else n.withLabel (some l))) p

/-- One node stays as it is; several become one of no further interest. -/
def collapse (p : Syn) : Syn :=
  .build (fun ns => some (if (ns.dropWhile Node.isComment).length ≤ 1 then ns else wrapNodes .other ns)) p

/-- Accept the nodes only if the last is of one of the kinds. -/
def onlyKinds (kinds : List Kind) (p : Syn) : Syn :=
  .build (fun ns => if (ns.getLast?.map Node.kind).any kinds.contains then some ns else none) p

/-- Attach a suffix to what it follows. The suffix is a node of the kind of the whole. -/
def attachSuffix (before suffix : List Node) (base : Node) : Node :=
  match suffix with
  | [.branch kind l cs] =>
    let base := if kind = .methodInvocation ∨ kind = .fieldAccess then base.withLabel (some .object) else base
    .branch kind l (base :: before ++ cs)
  | _ => .branch .other none (base :: before ++ suffix)

/-- Attach suffixes one after another; comments wait for the suffix behind them. -/
def attachSuffixes (base : Node) : List Node → List Node → Node
  | _, [] => base
  | waiting, n :: ns =>
    if n.isComment then attachSuffixes base (n :: waiting) ns
    else attachSuffixes (attachSuffix waiting.reverse [n] base) [] ns

/-- The first node, with the nodes after it as suffixes. -/
def suffixed (p : Syn) : Syn :=
  .build (fun ns =>
    match ns.dropWhile Node.isComment with
    | [] => none
    | base :: suffixes => some (ns.takeWhile Node.isComment ++ [attachSuffixes base [] suffixes])) p

/-- Targets of assignments. -/
def isTarget (n : Node) : Bool := n.kind == .identifier || n.kind == .fieldAccess || n.kind == .arrayAccess

/-- A primary expression, perhaps with an operator after it, perhaps assigned to. -/
def operandNode (p : Syn) : Syn :=
  .build (fun ns =>
    match ns.dropWhile Node.isComment with
    | [] => none
    | [_] => some ns
    | base :: rest =>
      if rest.any fun n => n.label == some .operator then
        if isTarget base && (rest.dropWhile Node.isComment).head?.any (fun n => n.label == some .operator) then
          some (ns.takeWhile Node.isComment ++ [.branch .assignment none (base.withLabel (some .left) :: rest)])
        else none
      else some (wrapNodes .other ns)) p

end ConfigCoverage.Java
