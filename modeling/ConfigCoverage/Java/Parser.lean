import ConfigCoverage.Error
import ConfigCoverage.Java.Grammar.Declarations
import ConfigCoverage.Java.Lowering

/-!
# Reading Java

* `parseFile`: the program of a source text, or the line near which the text stops to be Java.
-/

namespace ConfigCoverage.Java

/-- The rules of the grammar. -/
def rules : Rule → Syn
  | .program => programRule
  | .topLevel => topLevelRule
  | .type => typeRule
  | .plainType => plainTypeRule
  | .simpleType => simpleTypeRule
  | .typeArguments => typeArgumentsRule
  | .typeParameters => typeParametersRule
  | .dimensions => dimensionsRule
  | .marker => annotationRule
  | .elementValue => elementValueRule
  | .modifiers => modifiersRule
  | .qualifiedName => qualifiedNameRule
  | .expression => expressionRule
  | .labelExpression => labelExpressionRule
  | .operand => operandRule
  | .labelOperand => labelOperandRule
  | .primary => primaryRule
  | .arguments => argumentsRule
  | .arrayInitializer => arrayInitializerRule
  | .variableInitializer => variableInitializerRule
  | .variableDeclarator => variableDeclaratorRule
  | .formalParameters => formalParametersRule
  | .creation => creationRule
  | .switchExpression => switchExpressionRule
  | .switchLabel => switchLabelRule
  | .recordPattern => recordPatternRule
  | .block => blockRule
  | .statement => statementRule
  | .localVariableDeclaration => localVariableDeclarationRule
  | .classBody => classBodyRule
  | .classMember => classMemberRule
  | .interfaceBody => interfaceBodyRule
  | .enumBody => enumBodyRule
  | .annotationBody => annotationBodyRule
  | .typeDeclaration => typeDeclarationRule
  | .unitDeclaration => unitDeclarationRule
  | .methodDeclaration => methodDeclarationRule

/-- The nodes of a token: the comments before it and itself. -/
def tokenNodes (kind : Kind) (t : Token) : List Node :=
  t.comments.map (Node.leaf .comment none) ++ [.leaf kind none t.piece]

/-- The place after the parenthesis that closes the `depth` open ones. -/
def closing? (tokens : Array Token) : Nat → Nat → Nat → Option Nat
  | 0, _, _ => none
  | fuel + 1, depth, pos =>
    match tokens[pos]? with
    | none => none
    | some t =>
      if t.kind = .symbol ∧ t.piece.text = "(" then closing? tokens fuel (depth + 1) (pos + 1)
      else if t.kind = .symbol ∧ t.piece.text = ")" then
        if depth ≤ 1 then some (pos + 1) else closing? tokens fuel (depth - 1) (pos + 1)
      else closing? tokens fuel depth (pos + 1)

/-- What a terminal matches at a place. -/
def stepToken (tokens : Array Token) (terminal : Terminal) (pos : Nat) : Option (List Node × Nat) :=
  match tokens[pos]? with
  | none => none
  | some t =>
    let take := fun (kind : Kind) (ok : Bool) => if ok then some (tokenNodes kind t, pos + 1) else none
    match terminal with
    | .symbol s => take .token (t.kind == .symbol && t.piece.text == s)
    | .joinedSymbol s => take .token (t.kind == .symbol && t.piece.text == s && t.joined)
    | .word w kind => take kind (t.kind == .word && t.piece.text == w)
    | .joinedWord w => take .token (t.kind == .word && t.piece.text == w && t.joined)
    | .anyWord ws => take .token (t.kind == .word && ws.contains t.piece.text)
    | .name place => take .identifier (t.kind == .word && !place.reserved.contains t.piece.text)
    | .literal token kind => take kind (t.kind == token)
    | .parenthesized =>
      if t.kind == .symbol && t.piece.text == "(" then
        (closing? tokens (tokens.size - pos) 0 pos).map fun next => ([], next)
      else none
    | .endOfSource => take .token (t.kind == .endOfSource)

/-- The grammar over the tokens of a source. -/
def grammar (tokens : Array Token) : Grammar Terminal Rule Node := ⟨rules, stepToken tokens⟩

/-- The tree of a source text, or the line near which the text stops to be Java: that of the last token before the
farthest place that was reached. -/
def parseTree (source : String) : Except Nat Node :=
  match tokens source with
  | .error row => .error (row + 1)
  | .ok ts =>
    let tokens := ts.toArray
    match (grammar tokens).parse tokens.size .program with
    | ⟨some (nodes, _), _⟩ => .ok (.branch .program none nodes)
    | ⟨none, far⟩ =>
      .error (((tokens[far - 1]?).map fun t => t.piece.row).getD 0 + 1)

/-- The program of a source text. -/
def parseFile (source fileName : String) : Except Failure SourceFile :=
  match parseTree source with
  | .ok root => .ok (lowerFile fileName root)
  | .error line => .error (.syntaxError fileName line)

end ConfigCoverage.Java
