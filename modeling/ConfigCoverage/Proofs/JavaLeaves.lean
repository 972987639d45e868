import ConfigCoverage.Proofs.BareBodies
import ConfigCoverage.Proofs.JavaLayout
import ConfigCoverage.Proofs.JavaShapes

/-!
# The statements of a Java body

A body is lowered by two functions that call each other: one for what stands in a block, one for what stands right below
a compound statement or one of its clauses. Together they keep every statement that owns no others, once and in its
place, however deep it stands and whether it stands in braces or not.

* `leaves`: the statements that own no others, by one walk over the tree.
* `bare_lowerStmt_and_nestedStmt`: both functions keep them.
* `Node.Rebraced`: braces around single statements, put or taken away, and the layout that changes with them.
* `lowering_keeps_leaves`: the statements of a body are its leaves, and braces do not matter to the analysis.
-/

namespace ConfigCoverage

namespace Java

/-! ## Leaves -/

/-- A statement that owns no others. -/
inductive LeafStmt where
  /-- A variable of a declaration. -/
  | declarator (declaration d : Node)
  /-- A resource of a `try`. -/
  | resource (node : Node)
  /-- A statement made of an expression. -/
  | expression (node : Node)

/-- What a node is to the statements of a body. -/
inductive Role where
  | declaration
  | resource
  | expression
  /-- It stands around other statements. -/
  | owner
  /-- It is no statement that counts, and stands around none. -/
  | idle
deriving DecidableEq

/-- The role of the nodes of a kind. -/
def Kind.role : Kind → Role
  | .localVariableDeclaration => .declaration
  | .resource => .resource
  | .expressionStatement => .expression
  | .block | .ifStatement | .whileStatement | .forStatement | .enhancedForStatement | .doStatement | .tryStatement
  | .tryWithResourcesStatement | .resourceSpecification | .synchronizedStatement | .labeledStatement
  | .switchExpression | .catchClause | .finallyClause | .switchBlock | .switchGroup | .switchRule => .owner
  | _ => .idle

/-- The declarators of a declaration. -/
def declaratorsOf (n : Node) : List Node := n.children.filter fun c => c.label == some .declarator

mutual

/-- The leaves of a node, from its first to its last. -/
def leaves : Node → List LeafStmt
  | .leaf _ _ _ => []
  | .branch kind label cs =>
    match kind.role with
    | .declaration => (declaratorsOf (.branch kind label cs)).map (.declarator (.branch kind label cs))
    | .resource => [.resource (.branch kind label cs)]
    | .expression => [.expression (.branch kind label cs)]
    | .owner => leavesAll cs
    | .idle => []

/-- The leaves of nodes in a row. -/
def leavesAll : List Node → List LeafStmt
  | [] => []
  | c :: cs => leaves c ++ leavesAll cs

end

/-- The statement of a leaf. A resource that exists before the `try` declares nothing. -/
def LeafStmt.lower : LeafStmt → Option Stmt
  | .declarator declaration d =>
    (d.child? .name).map fun name =>
      .localDecl name.text ((declaration.child? .type).map Node.text) ((d.child? .value).map lowerExpr)
  | .resource n =>
    (n.child? .name).bind fun name =>
      (n.child? .value).map fun value =>
        .localDecl name.text ((n.child? .type).map Node.text) (some (lowerExpr value))
  | .expression n => n.namedChildren.head?.map lowerExprStmt

/-- The statements of leaves that count. -/
def lowered (ls : List LeafStmt) : List Stmt := (ls.filterMap LeafStmt.lower).filter fun s => !s.isOther

theorem lowered_append (ls ms : List LeafStmt) : lowered (ls ++ ms) = lowered ls ++ lowered ms := by
  rw [lowered, List.filterMap_append, List.filter_append, lowered, lowered]

theorem isBlock_lowerExprStmt (e : Node) : (lowerExprStmt e).isBlock = false := by
  unfold lowerExprStmt
  split
  · split <;> rfl
  · rfl

theorem isBlock_of_lower {l : LeafStmt} {s : Stmt} (h : l.lower = some s) : s.isBlock = false := by
  cases l with
  | declarator declaration d =>
    obtain ⟨name, -, rfl⟩ := Option.map_eq_some_iff.1 h
    rfl
  | resource n =>
    obtain ⟨name, -, h⟩ := Option.bind_eq_some_iff.1 h
    obtain ⟨value, -, rfl⟩ := Option.map_eq_some_iff.1 h
    rfl
  | expression n =>
    obtain ⟨e, -, rfl⟩ := Option.map_eq_some_iff.1 h
    exact isBlock_lowerExprStmt e

theorem bare_filterMap_lower (ls : List LeafStmt) : bare (ls.filterMap LeafStmt.lower) = lowered ls := by
  refine bare_of_not_isBlock fun s hs => ?_
  obtain ⟨l, -, hl⟩ := List.mem_filterMap.1 hs
  exact isBlock_of_lower hl

/-! ## One node -/

section OneNode

variable {kind : Kind} {l : Option Label} {cs : List Node}

theorem lowerLocal_eq (h : kind.role = .declaration) :
    lowerLocal (.branch kind l cs) = (leaves (.branch kind l cs)).filterMap LeafStmt.lower := by
  rw [leaves, h, List.filterMap_map]
  rfl

theorem leaves_owner (h : kind.role = .owner) : leaves (.branch kind l cs) = leavesAll cs := by rw [leaves, h]

/-- In a block and right below a compound statement, declarations and expressions are lowered alike. -/
theorem lowerStmt_of_declaration (h : kind.role = .declaration) :
    lowerStmt (.branch kind l cs) = (leaves (.branch kind l cs)).filterMap LeafStmt.lower ∧
      nestedStmt (.branch kind l cs) = (leaves (.branch kind l cs)).filterMap LeafStmt.lower := by
  rw [← lowerLocal_eq h]
  cases kind <;> first | exact ⟨rfl, rfl⟩ | cases h

theorem lowerStmt_of_expression (h : kind.role = .expression) :
    lowerStmt (.branch kind l cs) = (leaves (.branch kind l cs)).filterMap LeafStmt.lower ∧
      nestedStmt (.branch kind l cs) = (leaves (.branch kind l cs)).filterMap LeafStmt.lower := by
  have hlower : (leaves (.branch kind l cs)).filterMap LeafStmt.lower =
      ((Node.branch kind l cs).namedChildren.head?.map lowerExprStmt).toList := by
    rw [leaves, h]
    cases hc : (Node.branch kind l cs).namedChildren <;> simp [LeafStmt.lower, hc]
  rw [hlower]
  cases kind
  case expressionStatement =>
    unfold lowerStmt nestedStmt
    cases (Node.branch .expressionStatement l cs).namedChildren <;> exact ⟨rfl, rfl⟩
  all_goals cases h

theorem lowerStmt_of_compound (h : kind.isCompound = true) :
    lowerStmt (.branch kind l cs) = [.block (nestedStmts cs)] ∧
      nestedStmt (.branch kind l cs) = [.block (nestedStmts cs)] := by
  cases kind <;> first | exact ⟨rfl, rfl⟩ | cases h

theorem nestedStmt_of_clause (h : kind.isClause = true) : nestedStmt (.branch kind l cs) = nestedStmts cs := by
  cases kind <;> first | rfl | cases h

theorem lowerStmt_of_idle (h : kind.role = .idle) :
    bare (lowerStmt (.branch kind l cs)) = [] ∧ nestedStmt (.branch kind l cs) = [] ∧
      leaves (.branch kind l cs) = [] := by
  cases kind <;> first | exact ⟨rfl, rfl, rfl⟩ | cases h

/-- What stands around statements is a block, a compound statement, one of its clauses, or a row of resources. -/
theorem Kind.owner_cases (h : kind.role = .owner) :
    kind = .block ∨ kind.isCompound = true ∨ kind.isClause = true ∨ kind = .resourceSpecification := by
  revert h
  cases kind <;> decide

end OneNode

/-! ## Nodes in a row -/

theorem bare_lowerStmts {cs : List Node} (h : ∀ c ∈ cs, bare (lowerStmt c) = lowered (leaves c)) :
    bare (lowerStmts cs) = lowered (leavesAll cs) := by
  induction cs with
  | nil => rfl
  | cons c cs ih =>
    obtain ⟨hc, hcs⟩ := List.forall_mem_cons.1 h
    rw [lowerStmts, leavesAll, bare_append, lowered_append, hc, ih hcs]

theorem bare_nestedStmts {cs : List Node} (h : ∀ c ∈ cs, bare (nestedStmt c) = lowered (leaves c)) :
    bare (nestedStmts cs) = lowered (leavesAll cs) := by
  induction cs with
  | nil => rfl
  | cons c cs ih =>
    obtain ⟨hc, hcs⟩ := List.forall_mem_cons.1 h
    rw [nestedStmts, leavesAll, bare_append, lowered_append, hc, ih hcs]

theorem lowerResources_eq_filterMap (n : Node) :
    lowerResources n =
      (n.children.filter fun c => c.kind == .resource).filterMap fun r => (LeafStmt.resource r).lower := by
  refine congrArg (fun f => List.filterMap f _) (funext fun r => ?_)
  cases hname : r.child? .name <;> cases hvalue : r.child? .value <;> simp [LeafStmt.lower, hname, hvalue]

/-- Among resources stand their tokens and comments, which lower to nothing. -/
theorem lowerResources_eq {l : Option Label} {cs : List Node}
    (h : ∀ c ∈ cs, Kind.resourceSpecification.mayHold c.kind = true) :
    lowerResources (.branch .resourceSpecification l cs) = (leavesAll cs).filterMap LeafStmt.lower := by
  rw [lowerResources_eq_filterMap, Node.children]
  induction cs with
  | nil => rfl
  | cons c cs ih =>
    obtain ⟨hc, hcs⟩ := List.forall_mem_cons.1 h
    rw [leavesAll, List.filterMap_append, ← ih hcs, List.filter_cons]
    cases c with
    | leaf k l' piece =>
      have hnone : (LeafStmt.resource (.leaf k l' piece)).lower = none := rfl
      split <;> simp [leaves, hnone]
    | branch k l' cs' =>
      have hk : k = .resource ∨ k = .token ∨ k = .comment := by simpa [Kind.mayHold, Node.kind, or_assoc] using hc
      rcases hk with rfl | rfl | rfl
      · have hleaves : leaves (.branch .resource l' cs') = [.resource (.branch .resource l' cs')] := rfl
        have hresource : ((Node.branch .resource l' cs').kind == .resource) = true := rfl
        rw [hleaves, if_pos hresource]
        cases hlower : (LeafStmt.resource (.branch .resource l' cs')).lower <;> simp [hlower]
      · rfl
      · rfl

/-! ## Bodies -/

/-- Both functions keep the leaves of a node where it may stand. The induction is on the shape of the node: a block
hands its children to the one function, and all else that stands around statements to the other. -/
theorem bare_lowerStmt_and_nestedStmt {n : Node} (h : n.Shaped) :
    (n.kind.isPart = false → bare (lowerStmt n) = lowered (leaves n)) ∧
      (n.kind ≠ .resource → bare (nestedStmt n) = lowered (leaves n)) := by
  induction h with
  | leaf kind label piece =>
    refine ⟨fun _ => ?_, fun _ => rfl⟩
    rw [lowerStmt]
    split <;> rfl
  | @branch kind label cs hkinds _ ih =>
    cases hrole : kind.role with
    | declaration =>
      rw [(lowerStmt_of_declaration hrole).1, (lowerStmt_of_declaration hrole).2]
      exact ⟨fun _ => bare_filterMap_lower _, fun _ => bare_filterMap_lower _⟩
    | expression =>
      rw [(lowerStmt_of_expression hrole).1, (lowerStmt_of_expression hrole).2]
      exact ⟨fun _ => bare_filterMap_lower _, fun _ => bare_filterMap_lower _⟩
    | resource =>
      have hkind : kind = .resource := by revert hrole; cases kind <;> decide
      subst hkind
      exact ⟨fun h => (by cases h), fun h => absurd rfl h⟩
    | idle =>
      obtain ⟨hlower, hnested, hleaves⟩ := lowerStmt_of_idle hrole
      rw [hlower, hnested, hleaves]
      exact ⟨fun _ => rfl, fun _ => rfl⟩
    | owner =>
      rw [leaves_owner hrole]
      -- only a block and a compound statement stand in blocks; all four stand right below compound statements
      rcases Kind.owner_cases hrole with rfl | hcompound | hclause | rfl
      · have hbody : bare (lowerStmts cs) = lowered (leavesAll cs) := bare_lowerStmts fun c hc =>
          (ih c hc).1 (Kind.not_isPart_of_mayHold (hkinds c hc) nofun rfl)
        exact ⟨fun _ => (bare_block _).trans hbody, fun _ => (bare_block _).trans hbody⟩
      · have hbody : bare (nestedStmts cs) = lowered (leavesAll cs) := bare_nestedStmts fun c hc =>
          (ih c hc).2 (Kind.ne_resource_of_mayHold (hkinds c hc) (by simp [hcompound]))
        rw [(lowerStmt_of_compound hcompound).1, (lowerStmt_of_compound hcompound).2, bare_block]
        exact ⟨fun _ => hbody, fun _ => hbody⟩
      · have hbody : bare (nestedStmts cs) = lowered (leavesAll cs) := bare_nestedStmts fun c hc =>
          (ih c hc).2 (Kind.ne_resource_of_mayHold (hkinds c hc) (by simp [hclause]))
        refine ⟨fun hpart => ?_, fun _ => ?_⟩
        · simp [Node.kind, Kind.isPart, hclause] at hpart
        · rw [nestedStmt_of_clause hclause]
          exact hbody
      · refine ⟨fun hpart => (by cases hpart), fun _ => ?_⟩
        have hresources : nestedStmt (.branch .resourceSpecification label cs) = _ := lowerResources_eq hkinds
        rw [hresources]
        exact bare_filterMap_lower _

/-- The statements of a body that count are its leaves, from the first to the last. -/
theorem bare_lowerStmts_children {body : Node} (h : body.Shaped) (hblock : body.kind = .block) :
    bare (lowerStmts body.children) = lowered (leaves body) := by
  cases body with
  | leaf => rfl
  | branch kind label cs =>
    cases hblock
    rw [← (bare_lowerStmt_and_nestedStmt h).1 rfl]
    exact (bare_block _).symm

/-! ## Layout -/

theorem lower_declarator_unplaced (first first' : Bool) (declaration d : Node) :
    (LeafStmt.declarator (declaration.unplaced first) (d.unplaced first')).lower =
      (LeafStmt.declarator declaration d).lower := by
  have hlower : ∀ declaration d : Node, (LeafStmt.declarator declaration d).lower =
      ((d.child? .name).map Node.text).map fun name =>
        .localDecl name ((declaration.child? .type).map Node.text) ((d.child? .value).map lowerExpr) :=
    fun _ _ => by rw [Option.map_map]; rfl
  rw [hlower, hlower, d.map_child?_unplaced first' Node.text_unplaced, d.map_child?_unplaced first' lowerExpr_unplaced,
    declaration.map_child?_unplaced first Node.text_unplaced]

theorem lower_resource_unplaced (first : Bool) (n : Node) :
    (LeafStmt.resource (n.unplaced first)).lower = (LeafStmt.resource n).lower := by
  have hlower : ∀ n : Node, (LeafStmt.resource n).lower =
      ((n.child? .name).map Node.text).bind fun name => ((n.child? .value).map lowerExpr).map fun value =>
        .localDecl name ((n.child? .type).map Node.text) (some value) := fun n => by
    rw [LeafStmt.lower]
    cases n.child? .name <;> cases n.child? .value <;> rfl
  rw [hlower, hlower, n.map_child?_unplaced first Node.text_unplaced, n.map_child?_unplaced first lowerExpr_unplaced,
    n.map_child?_unplaced first Node.text_unplaced]

theorem lower_expression_unplaced (first : Bool) (n : Node) :
    (LeafStmt.expression (n.unplaced first)).lower = (LeafStmt.expression n).lower := by
  cases n with
  | leaf => rfl
  | branch k l cs =>
    have hnamed : ∀ (first : Bool) (c : Node), (c.unplaced first).isNamed = c.isNamed := fun first c => by
      rw [Node.isNamed, Node.kind_unplaced, Node.isNamed]
    have hfind := Node.map_find?_unplacedAll first lowerExprStmt_unplaced hnamed cs
    simpa only [LeafStmt.lower, Node.unplaced, Node.namedChildren, Node.children, List.head?_filter] using hfind

mutual

/-- What leaves are lowered to does not hang on where they stand. -/
theorem filterMap_leaves_unplaced : ∀ (first : Bool) (n : Node),
    (leaves (n.unplaced first)).filterMap LeafStmt.lower = (leaves n).filterMap LeafStmt.lower
  | _, .leaf _ _ _ => rfl
  | first, .branch k l cs => by
    rw [Node.unplaced, leaves, leaves]
    cases k.role with
    | declaration =>
      rw [List.filterMap_map, List.filterMap_map]
      exact Node.filterMap_filter_unplacedAll first
        (fun first' d => lower_declarator_unplaced first first' (.branch k l cs) d)
        (fun first' d => by rw [Node.label_unplaced]) cs
    | resource =>
      have hlower := lower_resource_unplaced first (.branch k l cs)
      rw [Node.unplaced] at hlower
      simp only [List.filterMap_cons, hlower]
    | expression =>
      have hlower := lower_expression_unplaced first (.branch k l cs)
      rw [Node.unplaced] at hlower
      simp only [List.filterMap_cons, hlower]
    | owner => exact filterMap_leavesAll_unplacedAll first cs
    | idle => rfl

theorem filterMap_leavesAll_unplacedAll : ∀ (first : Bool) (cs : List Node),
    (leavesAll (Node.unplacedAll first cs)).filterMap LeafStmt.lower = (leavesAll cs).filterMap LeafStmt.lower
  | _, [] => rfl
  | first, c :: cs => by
    rw [Node.unplacedAll, leavesAll, leavesAll, List.filterMap_append, List.filterMap_append,
      filterMap_leaves_unplaced first c, filterMap_leavesAll_unplacedAll false cs]

end

/-! ## Braces -/

/-- Two trees are the same up to braces around single statements, and up to the rows and the blanks before nodes. -/
inductive Node.Rebraced : Node → Node → Prop
  | moved {n n' : Node} : n.unplaced true = n'.unplaced true → Rebraced n n'
  | braces (s : Node) (label : Option Label) (before after : List Node) :
    (∀ t ∈ before ++ after, t.kind = .token ∨ t.kind = .comment) →
    Rebraced s (.branch .block label (before ++ s :: after))
  | inside {kind : Kind} {n n' : Node} (label : Option Label) (before after : List Node) : kind.role = .owner →
    Rebraced n n' → Rebraced (.branch kind label (before ++ n :: after)) (.branch kind label (before ++ n' :: after))
  | symm {n n' : Node} : Rebraced n n' → Rebraced n' n
  | trans {n n' n'' : Node} : Rebraced n n' → Rebraced n' n'' → Rebraced n n''

theorem leavesAll_append (cs ds : List Node) : leavesAll (cs ++ ds) = leavesAll cs ++ leavesAll ds := by
  induction cs with
  | nil => rfl
  | cons c cs ih => rw [List.cons_append, leavesAll, leavesAll, ih, List.append_assoc]

theorem leavesAll_eq_nil {cs : List Node} (h : ∀ c ∈ cs, c.kind = .token ∨ c.kind = .comment) : leavesAll cs = [] := by
  induction cs with
  | nil => rfl
  | cons c cs ih =>
    obtain ⟨hc, hcs⟩ := List.forall_mem_cons.1 h
    have hleaves : leaves c = [] := by
      cases c with
      | leaf => rfl
      | branch k l' cs' => rcases hc with rfl | rfl <;> rfl
    rw [leavesAll, hleaves, ih hcs, List.append_nil]

theorem Node.Rebraced.filterMap_leaves_eq {n n' : Node} (h : n.Rebraced n') :
    (leaves n).filterMap LeafStmt.lower = (leaves n').filterMap LeafStmt.lower := by
  induction h with
  | moved h => rw [← filterMap_leaves_unplaced true, h, filterMap_leaves_unplaced]
  | braces s label before after hmarks =>
    obtain ⟨hbefore, hafter⟩ := List.forall_mem_append.1 hmarks
    rw [leaves_owner rfl, leavesAll_append, leavesAll, leavesAll_eq_nil hbefore, leavesAll_eq_nil hafter,
      List.nil_append, List.append_nil]
  | inside label before after hrole _ ih =>
    simp only [leaves_owner hrole, leavesAll_append, leavesAll, List.filterMap_append, ih]
  | symm _ ih => exact ih.symm
  | trans _ _ ih₁ ih₂ => exact ih₁.trans ih₂

/-- The statements of a method that count are the leaves of its body, each lowered by itself: none is lost, none comes
twice, and their order is that of the tree. So braces around single statements, at any depth, put or taken away with
whatever layout, change nothing in the analysis of the file. The trees of all source texts have the shapes that this
takes. -/
theorem lowering_keeps_leaves :
    (∀ source root, parseTree source = .ok root → root.Shaped) ∧
      ∀ body : Node, body.Shaped → body.kind = .block →
        bare (lowerStmts body.children) = lowered (leaves body) ∧
          ∀ body' : Node, body'.Shaped → body'.kind = .block → body.Rebraced body' →
            ∀ (rule : TestCaseRule) (propertyName : String → Option String) (m : Option ModuleId) (file : String)
              (before after : List Method) (name : String) (markers : List String) (line : Nat),
              processFile ⟨rule.accepts, propertyName⟩ m
                  ⟨file, before ++ ⟨name, markers, lowerStmts body.children, line⟩ :: after⟩ =
                processFile ⟨rule.accepts, propertyName⟩ m
                  ⟨file, before ++ ⟨name, markers, lowerStmts body'.children, line⟩ :: after⟩ := by
  refine ⟨fun _ _ => parseTree_shaped, fun body hbody hblock => ?_⟩
  have hleaves := bare_lowerStmts_children hbody hblock
  refine ⟨hleaves, fun body' hbody' hblock' hbraces rule propertyName m file before after name markers line => ?_⟩
  have hleaves' := bare_lowerStmts_children hbody' hblock'
  rw [lowered, ← hbraces.filterMap_leaves_eq, ← lowered, ← hleaves] at hleaves'
  exact processFile_eq_of_bare hleaves'.symm

/-! ## A body with a resource, a branch and a handler -/

def mark (text : String) : Node := .leaf .token none ⟨" ", text, 0⟩

/-- The statements in braces. -/
def braced (statements : List Node) : Node := .branch .block none (mark "\x7b" :: statements ++ [mark "\x7d"])

/-- `c.setter(1);` after a gap, in some row. -/
def setterCall (gap : String) (row : Nat) (setter : String) : Node :=
  .branch .expressionStatement none [
    .branch .methodInvocation none [
      .leaf .identifier (some .object) ⟨gap, "c", row⟩, mark ".", .leaf .identifier (some .name) ⟨"", setter, row⟩,
      .branch .argumentList (some .arguments) [mark "(", .leaf .number none ⟨"", "1", row⟩, mark ")"]],
    mark ";"]

/-- `FooCheck c = make()` -/
def checkResource : Node :=
  .branch .resource none [
    .leaf .other (some .type) ⟨"", "FooCheck", 0⟩, .leaf .identifier (some .name) ⟨" ", "c", 0⟩, mark "=",
    .branch .methodInvocation (some .value) [
      .leaf .identifier (some .name) ⟨" ", "make", 0⟩,
      .branch .argumentList (some .arguments) [mark "(", mark ")"]]]

/-- A `try` over a branch, whose one side is given, and a handler with a loop. -/
def guardedBody (side : Node) : Node :=
  braced [.branch .tryWithResourcesStatement none [
    mark "try", .branch .resourceSpecification none [mark "(", checkResource, mark ")"],
    braced [.branch .ifStatement none [
      mark "if", .branch .parenthesized none [mark "(", .leaf .identifier none ⟨"", "x", 0⟩, mark ")"], side,
      mark "else", setterCall " " 0 "setB"]],
    .branch .finallyClause none [
      mark "finally", braced [.branch .whileStatement none [
        mark "while", .branch .parenthesized none [mark "(", .leaf .boolean none ⟨"", "true", 0⟩, mark ")"],
        setterCall " " 0 "setC"]]]]]

theorem rebraced_guardedBody {side side' : Node} (h : side.unplaced true = side'.unplaced true) :
    (guardedBody side).Rebraced (guardedBody (braced [side'])) := by
  have hmarks : ∀ t ∈ [mark "\x7b"] ++ [mark "\x7d"], t.kind = .token ∨ t.kind = .comment := by simp [mark, Node.kind]
  have hside : side.Rebraced (braced [side']) :=
    .trans (.moved h) (.braces side' none [mark "\x7b"] [mark "\x7d"] hmarks)
  -- from the side of the branch outwards: the branch, the block of the `try`, the `try`, the body
  exact .inside none [_] [_] rfl (.inside none [_, _] [_] rfl (.inside none [_] [_] rfl
    (.inside none [_, _] [_, _] rfl hside)))

/-- The resource comes first and the handler last, and nothing changes if the side of the branch is put in braces, on a
line of its own. -/
theorem lowering_keeps_leaves_guardedBody :
    lowered (leaves (guardedBody (setterCall " " 0 "setA"))) = [
        .localDecl "c" (some "FooCheck") (some (.call none "make" [])),
        .expr (.call (some (.name "c")) "setA" [.literal .number "1"]),
        .expr (.call (some (.name "c")) "setB" [.literal .number "1"]),
        .expr (.call (some (.name "c")) "setC" [.literal .number "1"])] ∧
      bare (lowerStmts (guardedBody (setterCall " " 0 "setA")).children) =
        lowered (leaves (guardedBody (setterCall " " 0 "setA"))) ∧
      processFile .standard (some ⟨"FooCheck"⟩)
          ⟨"T", [⟨"test", ["Test"], lowerStmts (guardedBody (setterCall " " 0 "setA")).children, 1⟩]⟩ =
        processFile .standard (some ⟨"FooCheck"⟩)
          ⟨"T", [⟨"test", ["Test"], lowerStmts (guardedBody (braced [setterCall "\n" 1 "setA"])).children, 1⟩]⟩ := by
  have hbare : (guardedBody (setterCall " " 0 "setA")).Shaped := by decide
  have hbraced : (guardedBody (braced [setterCall "\n" 1 "setA"])).Shaped := by decide
  obtain ⟨hleaves, hresults⟩ := lowering_keeps_leaves.2 _ hbare rfl
  refine ⟨rfl, hleaves, ?_⟩
  exact hresults _ hbraced rfl (rebraced_guardedBody rfl) .standard (setterProperty defaultSetterPrefix) _ "T" [] [] "test"
    ["Test"] 1

end Java

end ConfigCoverage
