import ConfigCoverage.Proofs.JavaAlike
import ConfigCoverage.Proofs.JavaLeaves

/-!
# Comments and parentheses

Whether a comment stands between two tokens, or an expression that gives a value stands in parentheses, is of no
consequence to what a source file is lowered to. Texts that are kept as they are written may have the comment in them.

* `Stmt.Alike`, `Method.Alike`, `SourceFile.Alike`: what is the same but for such texts.
* `alike_lowerStmt_and_nestedStmt`: alike trees are lowered to alike statements.
* `alike_collectMethods`: they have alike methods.
-/

namespace ConfigCoverage

/-- Statements that are the same but for texts kept as they are written. -/
inductive Stmt.Alike (raw : String → String → Prop) : Stmt → Stmt → Prop
  | localDecl {name : String} {type type' : Option String} {init init' : Option Expr} :
    Option.Rel (Verbatim raw) type type' → Option.Rel (Expr.Alike raw) init init' →
    Alike raw (.localDecl name type init) (.localDecl name type' init')
  | assign {target target' value value' : Expr} : target.Alike raw target' → value.Alike raw value' →
    Alike raw (.assign target value) (.assign target' value')
  | expr {e e' : Expr} : e.Alike raw e' → Alike raw (.expr e) (.expr e')
  | block {body body' : List Stmt} : List.Forall₂ (Alike raw) body body' → Alike raw (.block body) (.block body')
  | other : Alike raw .other .other

/-- Markers that are the last parts of two such texts. -/
def MarkerAlike (raw : String → String → Prop) (marker marker' : String) : Prop :=
  ∃ text text', Verbatim raw text text' ∧ marker = lastSegment text ∧ marker' = lastSegment text'

/-- Methods that are the same but for texts kept as they are written, in lines whose rows are related by `moved`. -/
structure Method.Alike (moved : Nat → Nat → Prop) (raw : String → String → Prop) (m m' : Method) : Prop where
  name : m.name = m'.name
  markers : List.Forall₂ (MarkerAlike raw) m.markers m'.markers
  body : List.Forall₂ (Stmt.Alike raw) m.body m'.body
  line : ∃ row row', moved row row' ∧ m.line = row + 1 ∧ m'.line = row' + 1

/-- Files of the same name with methods that are alike. -/
structure SourceFile.Alike (moved : Nat → Nat → Prop) (raw : String → String → Prop) (f f' : SourceFile) : Prop where
  name : f.name = f'.name
  methods : List.Forall₂ (Method.Alike moved raw) f.methods f'.methods

namespace Java

variable {moved : Nat → Nat → Prop} {raw : String → String → Prop}

/-! ## Nodes at fixed places -/

theorem Node.Alike.rowAlike {n n' : Node} (h : Node.Alike moved raw .fixed n n') :
    Node.RowAlike moved raw n.kind n.children n'.children := by
  cases h with
  | leaf => exact .nil
  | branch hrow _ => exact hrow
  | parensLeft hallows => cases hallows
  | parensRight hallows => cases hallows

theorem Node.Alike.text_eq_of_isWord {n n' : Node} (h : Node.Alike moved raw .fixed n n')
    (hword : n.kind.isWord = true) : n.text = n'.text := by
  cases h with
  | leaf htext _ => exact htext
  | @branch _ kind _ _ _ _ htext =>
    have hkind : kind.isWord = true := hword
    exact htext.resolve_right fun hraw => by simp [hkind] at hraw
  | parensLeft hallows => cases hallows
  | parensRight hallows => cases hallows

namespace Twins

variable {reading : Reading} {n n' : Node}

theorem rows (h : Twins moved raw reading .fixed n n') :
    TwinRows moved raw reading n.kind n.children n'.children :=
  twinRows_of_rowAlike h.alike.rowAlike (fun _ hc => ⟨h.left.child hc, h.left.fits hc⟩)
    (fun _ hc => ⟨h.alike.kind_eq ▸ h.right.child hc, h.alike.kind_eq ▸ h.right.fits hc⟩)

theorem name (h : Twins moved raw reading .fixed n n') (hk : n.kind ≠ .simpleMarker) (hk' : n.kind ≠ .argumentMarker) :
    Option.Rel (fun c c' => c.text = c'.text ∧ moved c.row c'.row) (n.child? .name) (n'.child? .name) :=
  h.rows.same_word (Kind.isLeaf_of_name hk hk')

theorem labeledText (h : Twins moved raw reading .fixed n n') {l : Label} (hplace : n.kind.placeOf (some l) = .fixed) :
    Option.Rel (Verbatim raw) ((n.child? l).map Node.text) ((n'.child? l).map Node.text) :=
  rel_map (h.rows.labeled l) fun _ _ hc => (hplace ▸ hc.1.alike).verbatim_text

theorem labeledExpr (h : Twins moved raw reading .fixed n n') {l : Label}
    (hreads : n.kind.reads reading (some l) = .expression) :
    Option.Rel (Expr.Alike raw) ((n.child? l).map lowerExpr) ((n'.child? l).map lowerExpr) :=
  rel_map (h.rows.labeled l) fun _ _ hc => hc.1.expr hreads

end Twins

/-! ## Statements that own no others -/

section Leaves

variable {n n' : Node}

theorem rel_lower_declarator {d d' : Node} (h : Twins moved raw .statements .fixed n n')
    (hn : n.kind = .localVariableDeclaration) (hd : Twins moved raw .statements .fixed d d')
    (hkind : d.kind = .variableDeclarator) :
    Option.Rel (Stmt.Alike raw) (LeafStmt.declarator n d).lower (LeafStmt.declarator n' d').lower := by
  refine rel_map (hd.name (by simp [hkind]) (by simp [hkind])) fun name name' hname => ?_
  rw [hname.1]
  exact .localDecl (h.labeledText (by rw [hn]; rfl)) (hd.labeledExpr (by rw [hkind]; rfl))

theorem rel_lower_resource (h : Twins moved raw .statements .fixed n n') (hkind : n.kind = .resource) :
    Option.Rel (Stmt.Alike raw) (LeafStmt.resource n).lower (LeafStmt.resource n').lower := by
  have htype := h.labeledText (l := .type) (by rw [hkind]; rfl)
  rw [LeafStmt.lower, LeafStmt.lower]
  rcases rel_cases (h.name (by simp [hkind]) (by simp [hkind])) with ⟨hc, hc'⟩ | ⟨name, name', hc, hc', hname, -⟩
  · rw [hc, hc']
    exact .none
  · rw [hc, hc', Option.bind_some, Option.bind_some, hname]
    refine rel_map (h.rows.labeled .value) fun value value' hvalue => .localDecl htype (.some ?_)
    exact hvalue.1.expr (by rw [hkind]; rfl)

/-- The operator of an assignment is one word. -/
theorem operator_eq {reading : Reading} (h : Twins moved raw reading .fixed n n') (hkind : n.kind = .assignment) :
    (n.child? .operator).map Node.text = (n'.child? .operator).map Node.text := by
  rcases rel_cases (h.rows.labeled .operator) with ⟨hc, hc'⟩ | ⟨c, c', hc, hc', htwins, hchild, hl⟩
  · rw [Node.child?, Node.child?, hc, hc']
  · have htoken : c.kind = .token := by simpa [Kind.fits, hl] using hchild.fits
    have halike : Node.Alike moved raw .fixed c c' := by simpa [hkind, Kind.placeOf] using htwins.alike
    rw [Node.child?, Node.child?, hc, hc', Option.map_some, Option.map_some,
      halike.text_eq_of_isWord (by rw [htoken]; rfl)]

theorem alike_lowerExprStmt (h : Twins moved raw .effect .fixed n n') :
    Stmt.Alike raw (lowerExprStmt n) (lowerExprStmt n') := by
  rw [lowerExprStmt_eq, lowerExprStmt_eq, ← h.alike.kind_eq]
  split
  · next hkind =>
    rw [← operator_eq h hkind]
    split
    · rcases rel_cases (h.labeledExpr (l := .left) (by rw [hkind]; rfl)) with
        ⟨hc, hc'⟩ | ⟨left, left', hc, hc', hleft⟩
      · rw [hc, hc']
        exact .other
      · rcases rel_cases (h.labeledExpr (l := .right) (by rw [hkind]; rfl)) with
          ⟨hd, hd'⟩ | ⟨right, right', hd, hd', hright⟩
        · rw [hc, hc', hd, hd']
          exact .other
        · rw [hc, hc', hd, hd']
          exact .assign hleft hright
    · exact .other
  · next hkind =>
    have hexpression := twins_of_alike h.alike (h.left.expression hkind)
      (h.right.expression (h.alike.kind_eq ▸ hkind))
    exact .expr (hexpression.expr rfl)

theorem alike_lowerLocal (h : Twins moved raw .statements .fixed n n') (hkind : n.kind = .localVariableDeclaration) :
    List.Forall₂ (Stmt.Alike raw) (lowerLocal n) (lowerLocal n') := by
  have hrows : TwinRows moved raw .statements .localVariableDeclaration n.children n'.children := hkind ▸ h.rows
  have hdeclarators := hrows.filter (p := fun c => c.label == some .declarator)
    (fun c c' hc => by rw [hc.twins.alike.label_eq]) (fun c _ hl => by rw [hl]; rfl)
  refine List.rel_filterMap (fun d d' hd => ?_) hdeclarators
  have hdeclarator : d.kind = .variableDeclarator := by simpa [Kind.fits, eq_of_beq hd.2] using hd.1.fits
  exact rel_lower_declarator h hkind hd.1.twins hdeclarator

theorem alike_lowerResources (h : Twins moved raw .statements .fixed n n')
    (hkind : n.kind = .resourceSpecification) :
    List.Forall₂ (Stmt.Alike raw) (lowerResources n) (lowerResources n') := by
  have hrows : TwinRows moved raw .statements .resourceSpecification n.children n'.children := hkind ▸ h.rows
  have hresources := hrows.filter (p := fun c => c.kind == .resource)
    (fun c c' hc => by rw [hc.twins.alike.kind_eq]) (fun c hk _ => by rw [hk]; rfl)
  rw [lowerResources_eq_filterMap, lowerResources_eq_filterMap]
  exact List.rel_filterMap (fun r r' hr => rel_lower_resource hr.1.twins (eq_of_beq hr.2)) hresources

theorem lowerStmt_expressionStatement (l : Option Label) (cs : List Node) :
    lowerStmt (.branch .expressionStatement l cs) = ((cs.find? Node.isNamed).map lowerExprStmt).toList ∧
      nestedStmt (.branch .expressionStatement l cs) = ((cs.find? Node.isNamed).map lowerExprStmt).toList := by
  rw [← List.head?_filter]
  unfold lowerStmt nestedStmt Node.namedChildren Node.children
  cases cs.filter Node.isNamed <;> exact ⟨rfl, rfl⟩

/-- The first child of an expression statement that is more than a token is its expression. -/
theorem alike_expressionStatement (h : Twins moved raw .statements .fixed n n')
    (hkind : n.kind = .expressionStatement) :
    List.Forall₂ (Stmt.Alike raw) ((n.children.find? Node.isNamed).map lowerExprStmt).toList
      ((n'.children.find? Node.isNamed).map lowerExprStmt).toList := by
  have hrows : TwinRows moved raw .statements .expressionStatement n.children n'.children := hkind ▸ h.rows
  have hfirst := hrows.first (h.left.opens_expressionStatement hkind)
    (h.right.opens_expressionStatement (h.alike.kind_eq ▸ hkind))
  exact rel_toList (rel_map hfirst fun _ _ hchild => alike_lowerExprStmt hchild.twins)

end Leaves

/-! ## Statements -/

/-- The statements of a form that is not looked into, by its kind. -/
def Kind.unread : Kind → List Stmt
  | .token | .comment => []
  | _ => [.other]

theorem lowerStmt_leaf (kind : Kind) (l : Option Label) (piece : Piece) :
    lowerStmt (.leaf kind l piece) = kind.unread := by
  cases kind <;> rfl

theorem lowerStmt_of_unread {kind : Kind} (h : kind.role = .idle ∨ kind.isPart = true) (l : Option Label)
    (cs : List Node) : lowerStmt (.branch kind l cs) = kind.unread := by
  cases kind <;> first | rfl | (rcases h with h | h <;> cases h)

theorem alike_unread (kind : Kind) : List.Forall₂ (Stmt.Alike raw) kind.unread kind.unread := by
  unfold Kind.unread
  split
  · exact .nil
  · exact .nil
  · exact .cons .other .nil

theorem lowerStmt_of_comment {n : Node} (h : n.kind = .comment) : lowerStmt n = [] ∧ nestedStmt n = [] := by
  cases n with
  | leaf => cases h; exact ⟨rfl, rfl⟩
  | branch => cases h; exact ⟨rfl, rfl⟩

/-- Where an expression gives no value, parentheses around it are allowed only if it is no statement. -/
theorem lowerStmt_of_parens {place : Place} {n : Node} (l : Option Label) (hplace : place ≠ .value)
    (h : place.allows n.kind = true) : lowerStmt (n.withLabel l) = [.other] ∧ nestedStmt (n.withLabel l) = [] := by
  cases place with
  | value => exact absurd rfl hplace
  | fixed => cases h
  | header =>
    cases n with
    | leaf kind => cases kind <;> first | exact ⟨rfl, rfl⟩ | cases h
    | branch kind => cases kind <;> first | exact ⟨rfl, rfl⟩ | cases h

/-- What may stand in parentheses in the header of a loop is not read. -/
theorem regular_of_parens {place : Place} {n : Node} (hplace : place ≠ .value) (h : place.allows n.kind = true)
    (hformed : n.every Kind.formed = true) : n.Regular .statements := by
  refine ⟨hformed, Node.direct_of_unread (by decide) (by decide) fun l => ?_⟩
  cases place with
  | value => exact absurd rfl hplace
  | fixed => cases h
  | header =>
    revert h
    cases n.kind <;> first | exact fun _ => rfl | exact fun h => by cases h

/-- What stands around statements has no place for values. -/
theorem Kind.placeOf_ne_value {kind : Kind} (h : kind.role = .owner) (l : Option Label) : kind.placeOf l ≠ .value := by
  revert h
  cases kind
  case forStatement | enhancedForStatement =>
    simp only [placeOf]
    split <;> simp
  all_goals first | exact fun _ => Place.noConfusion | exact nofun

theorem Kind.reads_of_owner {kind : Kind} (h : kind.role = .owner) (l : Option Label) :
    kind.reads .statements l = .statements := by
  revert h
  cases kind <;> first | exact fun _ => rfl | exact fun h => by cases h

/-- The two functions on one node, by its role. What stands around statements hands its children on. -/
theorem alike_lowerStmt_branch {kind : Kind} {l : Option Label} {cs cs' : List Node}
    (h : Twins moved raw .statements .fixed (.branch kind l cs) (.branch kind l cs'))
    (howner : kind.role = .owner → List.Forall₂ (Stmt.Alike raw) (lowerStmts cs) (lowerStmts cs') ∧
      List.Forall₂ (Stmt.Alike raw) (nestedStmts cs) (nestedStmts cs')) :
    List.Forall₂ (Stmt.Alike raw) (lowerStmt (.branch kind l cs)) (lowerStmt (.branch kind l cs')) ∧
      List.Forall₂ (Stmt.Alike raw) (nestedStmt (.branch kind l cs)) (nestedStmt (.branch kind l cs')) := by
  cases hrole : kind.role with
  | declaration =>
    have hkind : kind = .localVariableDeclaration := by revert hrole; cases kind <;> decide
    subst hkind
    exact ⟨alike_lowerLocal h rfl, alike_lowerLocal h rfl⟩
  | expression =>
    have hkind : kind = .expressionStatement := by revert hrole; cases kind <;> decide
    subst hkind
    rw [(lowerStmt_expressionStatement l cs).1, (lowerStmt_expressionStatement l cs).2,
      (lowerStmt_expressionStatement l cs').1, (lowerStmt_expressionStatement l cs').2]
    exact ⟨alike_expressionStatement h rfl, alike_expressionStatement h rfl⟩
  | resource =>
    have hkind : kind = .resource := by revert hrole; cases kind <;> decide
    subst hkind
    exact ⟨.cons .other .nil, .nil⟩
  | idle =>
    rw [lowerStmt_of_unread (.inl hrole), lowerStmt_of_unread (.inl hrole), (lowerStmt_of_idle hrole).2.1,
      (lowerStmt_of_idle hrole).2.1]
    exact ⟨alike_unread kind, .nil⟩
  | owner =>
    obtain ⟨hstmts, hnested⟩ := howner hrole
    rcases Kind.owner_cases hrole with rfl | hcompound | hclause | rfl
    · exact ⟨.cons (.block hstmts) .nil, .cons (.block hstmts) .nil⟩
    · rw [(lowerStmt_of_compound hcompound).1, (lowerStmt_of_compound hcompound).2,
        (lowerStmt_of_compound hcompound).1, (lowerStmt_of_compound hcompound).2]
      exact ⟨.cons (.block hnested) .nil, .cons (.block hnested) .nil⟩
    · have hpart : kind.isPart = true := by simp [Kind.isPart, hclause]
      rw [nestedStmt_of_clause hclause, nestedStmt_of_clause hclause, lowerStmt_of_unread (.inr hpart),
        lowerStmt_of_unread (.inr hpart)]
      exact ⟨alike_unread kind, hnested⟩
    · exact ⟨.cons .other .nil, alike_lowerResources h rfl⟩

mutual

/-- Alike trees are lowered to alike statements. The induction is on how the trees are alike: parentheses of a loop
header are no statement, and neither is what stands in them. -/
theorem alike_lowerStmt_and_nestedStmt : ∀ {place : Place} {n n' : Node}, Node.Alike moved raw place n n' →
    place ≠ .value → n.Regular .statements → n'.Regular .statements →
    List.Forall₂ (Stmt.Alike raw) (lowerStmt n) (lowerStmt n') ∧
      List.Forall₂ (Stmt.Alike raw) (nestedStmt n) (nestedStmt n')
  | _, _, _, .leaf _ _, _, _, _ => by
    rw [lowerStmt_leaf, lowerStmt_leaf]
    exact ⟨alike_unread _, .nil⟩
  | _, _, _, .branch hrow htext, _, h, h' =>
    alike_lowerStmt_branch (twins_of_alike (.branch hrow htext) h h') fun hrole =>
      alike_lowerStmts_and_nestedStmts hrow (Kind.placeOf_ne_value hrole)
        (fun c hc => Kind.reads_of_owner hrole c.label ▸ h.child hc)
        (fun c hc => Kind.reads_of_owner hrole c.label ▸ h'.child hc)
  | _, _, _, .parensLeft hallows henclosed halike, hplace, h, h' => by
    have hinner := regular_of_parens hplace hallows (h.child henclosed.mem).formed
    have halikes := alike_lowerStmt_and_nestedStmt halike hplace (hinner.withLabel _) h'
    rwa [(lowerStmt_of_parens _ hplace hallows).1, (lowerStmt_of_parens _ hplace hallows).2] at halikes
  | _, _, _, .parensRight hallows henclosed halike, hplace, h, h' => by
    have hinner := regular_of_parens hplace hallows (h'.child henclosed.mem).formed
    have halikes := alike_lowerStmt_and_nestedStmt halike hplace h (hinner.withLabel _)
    rwa [(lowerStmt_of_parens _ hplace hallows).1, (lowerStmt_of_parens _ hplace hallows).2] at halikes

theorem alike_lowerStmts_and_nestedStmts : ∀ {parent : Kind} {cs cs' : List Node},
    Node.RowAlike moved raw parent cs cs' → (∀ l, parent.placeOf l ≠ .value) →
    (∀ c ∈ cs, c.Regular .statements) → (∀ c ∈ cs', c.Regular .statements) →
    List.Forall₂ (Stmt.Alike raw) (lowerStmts cs) (lowerStmts cs') ∧
      List.Forall₂ (Stmt.Alike raw) (nestedStmts cs) (nestedStmts cs')
  | _, _, _, .nil, _, _, _ => ⟨.nil, .nil⟩
  | _, _, _, .cons hc hcs, hplace, h, h' => by
    obtain ⟨hregular, h⟩ := List.forall_mem_cons.1 h
    obtain ⟨hregular', h'⟩ := List.forall_mem_cons.1 h'
    obtain ⟨hstmt, hnested⟩ := alike_lowerStmt_and_nestedStmt hc (hplace _) hregular hregular'
    obtain ⟨hstmts, hnesteds⟩ := alike_lowerStmts_and_nestedStmts hcs hplace h h'
    exact ⟨List.rel_append hstmt hstmts, List.rel_append hnested hnesteds⟩
  | _, _, _, .commentLeft hk _ hcs, hplace, h, h' => by
    have halikes := alike_lowerStmts_and_nestedStmts hcs hplace (List.forall_mem_cons.1 h).2 h'
    rwa [lowerStmts, nestedStmts, (lowerStmt_of_comment hk).1, (lowerStmt_of_comment hk).2]
  | _, _, _, @Node.RowAlike.commentRight _ _ _ c cs cs' hk _ hcs, hplace, h, h' => by
    have halikes := alike_lowerStmts_and_nestedStmts hcs hplace h (List.forall_mem_cons.1 h').2
    rwa [lowerStmts.eq_2 c, nestedStmts.eq_2 c, (lowerStmt_of_comment hk).1, (lowerStmt_of_comment hk).2]

end

/-! ## Methods -/

section Method

variable {n n' : Node}

/-- The name of an annotation is the last part of a text that is kept as it is written. -/
theorem alike_markers (h : Twins moved raw .member .fixed n n') (hkind : n.kind = .methodDeclaration) :
    List.Forall₂ (MarkerAlike raw) (markers n) (markers n') := by
  have hrows : TwinRows moved raw .member .methodDeclaration n.children n'.children := hkind ▸ h.rows
  have hmodifiers := hrows.filter (p := fun c => c.kind == .modifiers)
    (fun c c' hc => by rw [hc.twins.alike.kind_eq]) (fun c hk _ => by rw [hk]; rfl)
  refine List.rel_flatMap hmodifiers fun m m' hm => ?_
  have hkind : m.kind = .modifiers := eq_of_beq hm.2
  have hrows : TwinRows moved raw _ .modifiers m.children m'.children := hkind ▸ hm.1.twins.rows
  have hmarkers := hrows.filter (p := fun a => a.kind == .simpleMarker || a.kind == .argumentMarker)
    (fun a a' ha => by rw [ha.twins.alike.kind_eq]) (fun a hk _ => by rw [hk]; rfl)
  refine List.rel_filterMap (fun a a' ha => ?_) hmarkers
  have hplace : a.kind.placeOf (some .name) = .fixed := by
    have hkinds := ha.2
    rw [Bool.or_eq_true, beq_iff_eq, beq_iff_eq] at hkinds
    rcases hkinds with hkinds | hkinds <;> rw [hkinds] <;> rfl
  refine rel_map (ha.1.twins.rows.labeled .name) fun name name' hname => ?_
  exact ⟨_, _, (hplace ▸ hname.1.alike).verbatim_text, rfl, rfl⟩

theorem alike_body (h : Twins moved raw .member .fixed n n') (hkind : n.kind = .methodDeclaration) :
    List.Forall₂ (Stmt.Alike raw) (((n.child? .body).map fun b => lowerStmts b.children).getD [])
      (((n'.child? .body).map fun b => lowerStmts b.children).getD []) := by
  have hrows : TwinRows moved raw .member .methodDeclaration n.children n'.children := hkind ▸ h.rows
  rcases rel_cases (hrows.labeled .body) with ⟨hc, hc'⟩ | ⟨b, b', hc, hc', htwins, hchild, hl⟩
  · rw [Node.child?, Node.child?, hc, hc']
    exact .nil
  · rw [Node.child?, Node.child?, hc, hc']
    have hblock : b.kind = .block := by simpa [Kind.fits, hl] using hchild.fits
    have hplace : ∀ l, b.kind.placeOf l ≠ .value := Kind.placeOf_ne_value (by rw [hblock]; rfl)
    have hreads : ∀ l, b.kind.reads .statements l = .statements := Kind.reads_of_owner (by rw [hblock]; rfl)
    exact (alike_lowerStmts_and_nestedStmts htwins.alike.rowAlike hplace
      (fun c hc => hreads c.label ▸ htwins.left.child hc)
      (fun c hc => hreads c.label ▸ htwins.alike.kind_eq ▸ htwins.right.child hc)).1

theorem rel_lowerMethod (h : Twins moved raw .member .fixed n n') (hkind : n.kind = .methodDeclaration) :
    Option.Rel (Method.Alike moved raw) (lowerMethod n) (lowerMethod n') := by
  refine rel_map (h.name (by simp [hkind]) (by simp [hkind])) fun name name' hname => ?_
  exact ⟨hname.1, alike_markers h hkind, alike_body h hkind, _, _, hname.2, rfl, rfl⟩

end Method

/-- There are no methods in what parentheses may stand around. -/
theorem collectMethods_of_parens {place : Place} {n : Node} (l : Option Label) (h : place.allows n.kind = true) :
    collectMethods (n.withLabel l) = [] := by
  have hexpression := Place.isExpression_of_allows h
  cases n with
  | leaf => rfl
  | branch kind => cases kind <;> first | rfl | cases hexpression

theorem collectMethods_of_comment {n : Node} (h : n.kind = .comment) : collectMethods n = [] := by
  cases n with
  | leaf => rfl
  | branch => cases h; rfl

theorem regular_member_of_parens {place : Place} {n : Node} (h : place.allows n.kind = true)
    (hformed : n.every Kind.formed = true) : n.Regular .member := by
  refine ⟨hformed, Node.direct_of_unread (by decide) (by decide) fun l => ?_⟩
  have hexpression := Place.isExpression_of_allows h
  revert hexpression
  cases n.kind <;> first | exact fun _ => rfl | exact fun h => by cases h

theorem Kind.placeOf_body {kind : Kind} (h : kind.isTypeDeclaration = true) : kind.placeOf (some .body) = .fixed := by
  cases kind <;> first | rfl | cases h

theorem Kind.reads_body {kind : Kind} (h : kind.isTypeDeclaration = true) :
    kind.reads .member (some .body) = .members := by
  cases kind <;> first | rfl | cases h

theorem Kind.reads_typeBody {kind : Kind} (h : kind.isTypeBody = true) (l : Option Label) :
    kind.reads .member l = .member := by
  cases kind <;> first | rfl | cases h

mutual

/-- Alike trees have alike methods. -/
theorem alike_collectMethods : ∀ {reading : Reading} {place : Place} {n n' : Node}, Node.Alike moved raw place n n' →
    n.Regular reading → n'.Regular reading →
    (reading = .member → List.Forall₂ (Method.Alike moved raw) (collectMethods n) (collectMethods n')) ∧
      (reading = .members → place = .fixed →
        List.Forall₂ (Method.Alike moved raw) (collectChildren n) (collectChildren n'))
  | _, _, _, _, .leaf _ _, _, _ => ⟨fun _ => .nil, fun _ _ => .nil⟩
  | reading, _, _, _, .branch hrow htext, h, h' => by
    obtain ⟨hall, hbody⟩ := alike_collectAll hrow (fun _ => h.child) (fun _ => h'.child)
    refine ⟨fun hreading => ?_, fun hreading _ => hall fun _ => by rw [hreading]; rfl⟩
    subst hreading
    rw [collectMethods, collectMethods]
    split
    · next hmethod => exact rel_toList (rel_lowerMethod (twins_of_alike (.branch hrow htext) h h') hmethod)
    · split
      · next hdeclaration => exact hbody (Kind.reads_body hdeclaration) (Kind.placeOf_body hdeclaration)
      · split
        · next hbodies => exact hall (Kind.reads_typeBody hbodies)
        · exact .nil
  | reading, _, _, _, .parensLeft hallows henclosed halike, h, h' => by
    refine ⟨fun hreading => ?_, fun _ hplace => by rw [hplace] at hallows; cases hallows⟩
    subst hreading
    have hinner := regular_member_of_parens hallows (h.child henclosed.mem).formed
    have hmethods := (alike_collectMethods halike (hinner.withLabel _) h').1 rfl
    rwa [collectMethods_of_parens _ hallows] at hmethods
  | reading, _, _, _, .parensRight hallows henclosed halike, h, h' => by
    refine ⟨fun hreading => ?_, fun _ hplace => by rw [hplace] at hallows; cases hallows⟩
    subst hreading
    have hinner := regular_member_of_parens hallows (h'.child henclosed.mem).formed
    have hmethods := (alike_collectMethods halike h (hinner.withLabel _)).1 rfl
    rwa [collectMethods_of_parens _ hallows] at hmethods

theorem alike_collectAll : ∀ {readings : Option Label → Reading} {parent : Kind} {cs cs' : List Node},
    Node.RowAlike moved raw parent cs cs' → (∀ c ∈ cs, c.Regular (readings c.label)) →
    (∀ c ∈ cs', c.Regular (readings c.label)) →
    ((∀ l, readings l = .member) → List.Forall₂ (Method.Alike moved raw) (collectAll cs) (collectAll cs')) ∧
      (readings (some .body) = .members → parent.placeOf (some .body) = .fixed →
        List.Forall₂ (Method.Alike moved raw) (collectBody cs) (collectBody cs'))
  | _, _, _, _, .nil, _, _ => ⟨fun _ => .nil, fun _ _ => .nil⟩
  | _, _, _, _, .cons hc hcs, h, h' => by
    obtain ⟨hregular, h⟩ := List.forall_mem_cons.1 h
    obtain ⟨hregular', h'⟩ := List.forall_mem_cons.1 h'
    rw [← hc.label_eq] at hregular'
    obtain ⟨hmethods, hchildren⟩ := alike_collectMethods hc hregular hregular'
    obtain ⟨hall, hbody⟩ := alike_collectAll hcs h h'
    refine ⟨fun hmembers => List.rel_append (hmethods (hmembers _)) (hall hmembers), fun hreads hplace => ?_⟩
    rw [collectBody, collectBody, ← hc.label_eq]
    split
    · next hl => exact hchildren (hl ▸ hreads) (hl ▸ hplace)
    · exact hbody hreads hplace
  | _, _, _, _, .commentLeft hk hl hcs, h, h' => by
    obtain ⟨hall, hbody⟩ := alike_collectAll hcs (List.forall_mem_cons.1 h).2 h'
    rw [collectAll, collectBody, collectMethods_of_comment hk, if_neg (by simp [hl])]
    exact ⟨hall, hbody⟩
  | _, _, _, _, @Node.RowAlike.commentRight _ _ _ c cs cs' hk hl hcs, h, h' => by
    obtain ⟨hall, hbody⟩ := alike_collectAll hcs h (List.forall_mem_cons.1 h').2
    rw [collectAll.eq_2 c, collectBody.eq_2 c, collectMethods_of_comment hk, if_neg (by simp [hl])]
    exact ⟨hall, hbody⟩

end

/-! ## Files -/

theorem lowerExpr_of_comment {n : Node} (h : n.isComment = true) : lowerExpr n = .other n.text := by
  have hkind : n.kind = .comment := eq_of_beq h
  cases n with
  | leaf => cases hkind; rfl
  | branch => cases hkind; rfl

/-- A comment that comes before the expression in parentheses is taken for the expression. -/
theorem lowerExpr_parens_comment {label : Option Label} {cs : List Node} (h : Node.opensWithComment cs = true) :
    ∃ comment ∈ cs, comment.isComment = true ∧ lowerExpr (.branch .parenthesized label cs) = .other comment.text := by
  unfold Node.opensWithComment at h
  cases hfind : cs.find? Node.isNamed with
  | none => simp [hfind] at h
  | some comment =>
    rw [hfind, Option.any_some] at h
    refine ⟨comment, List.mem_of_find?_eq_some hfind, h, ?_⟩
    rw [lowerExpr, lowerFirst_eq, hfind, Option.map_some, lowerExpr_of_comment h]
    rfl

/-- **Comments and parentheses are transparent.** The trees of source texts are formed. If two formed trees differ only
in comments and in parentheses where these may be, and no comment comes right after the opening parenthesis of an
expression that is read, then their files are the same but for texts that are kept as they are written, of nodes with a
difference inside. An expression is the same in parentheses as without, but a comment that comes before it in them is
taken for the expression. -/
theorem lowerFile_transparent (moved : Nat → Nat → Prop) (raw : String → String → Prop) :
    (∀ (source : String) (root : Node), parseTree source = .ok root → root.every Kind.formed = true) ∧
    (∀ (name : String) (root root' : Node), Node.Alike moved raw .fixed root root' → root.Regular .members →
      root'.Regular .members → SourceFile.Alike moved raw (lowerFile name root) (lowerFile name root')) ∧
    (∀ (label : Option Label) (inner : Node) (cs : List Node), inner.Enclosed cs → inner.isContent = true →
      Node.opensWithComment cs = false → lowerExpr (.branch .parenthesized label cs) = lowerExpr inner) ∧
    ∀ (label : Option Label) (cs : List Node), Node.opensWithComment cs = true →
      ∃ comment ∈ cs, comment.isComment = true ∧
        lowerExpr (.branch .parenthesized label cs) = .other comment.text := by
  refine ⟨fun _ _ => parseTree_formed, fun name root root' h hroot hroot' => ⟨rfl, ?_⟩, fun _ _ _ => lowerExpr_parens,
    fun _ _ => lowerExpr_parens_comment⟩
  exact (alike_collectAll h.rowAlike (fun _ => hroot.child) (fun _ => hroot'.child)).1 fun _ => rfl

/-- A method that sets a property of a receiver. -/
def setterFile (receiver : Node) : Node :=
  .branch .program none [.branch .methodDeclaration none [.leaf .identifier (some .name) ⟨"", "test", 0⟩,
    .branch .block (some .body) [.leaf .token none ⟨" ", "\x7b", 0⟩,
      .branch .expressionStatement none [
        .branch .methodInvocation none [receiver, .leaf .token none ⟨"", ".", 0⟩,
          .leaf .identifier (some .name) ⟨"", "setMax", 0⟩,
          .branch .argumentList (some .arguments) [.leaf .number none ⟨"", "1", 0⟩]],
        .leaf .token none ⟨"", ";", 0⟩],
      .leaf .token none ⟨" ", "\x7d", 0⟩]]]

/-- The receiver `c`. -/
def plainReceiver : Node := .leaf .identifier (some .object) ⟨" ", "c", 0⟩

/-- The receiver in parentheses, with some nodes around it. -/
def enclosedReceiver (before after : List Node) : Node :=
  .branch .parenthesized (some .object)
    (.leaf .token none ⟨" ", "(", 0⟩ :: before ++ .leaf .identifier none ⟨" ", "c", 0⟩ :: after ++
      [.leaf .token none ⟨"", ")", 0⟩])

/-- A comment. -/
def remark : Node := .leaf .comment none ⟨"", "/* c */", 0⟩

theorem alike_setterFile {receiver receiver' : Node} (hl : receiver.label = some .object)
    (h : Node.Alike (· = ·) (fun _ _ => True) .value receiver receiver') :
    Node.Alike (· = ·) (fun _ _ => True) .fixed (setterFile receiver) (setterFile receiver') := by
  have hreceiver : Node.Alike (· = ·) (fun _ _ => True) (Kind.methodInvocation.placeOf receiver.label) receiver
      receiver' := by
    rw [hl]
    exact h
  -- from the file to the body of the method, to the statement, to the call with the receiver
  refine .branch (.cons ?_ .nil) (.inr ⟨rfl, trivial⟩)
  refine .branch (.cons (.leaf rfl rfl) (.cons ?_ .nil)) (.inr ⟨rfl, trivial⟩)
  refine .branch (.cons (.leaf rfl rfl) (.cons ?_ (.refl (fun _ => rfl) _ _))) (.inr ⟨rfl, trivial⟩)
  refine .branch (.cons ?_ (.refl (fun _ => rfl) _ _)) (.inr ⟨rfl, trivial⟩)
  exact .branch (.cons hreceiver (.refl (fun _ => rfl) _ _)) (.inr ⟨rfl, trivial⟩)

/-- Parentheses around a receiver, with a comment after it. -/
theorem lowerFile_transparent_receiver :
    Node.Alike (· = ·) (fun _ _ => True) .fixed (setterFile plainReceiver) (setterFile (enclosedReceiver [] [remark])) ∧
      SourceFile.Alike (· = ·) (fun _ _ => True) (lowerFile "Test" (setterFile plainReceiver))
        (lowerFile "Test" (setterFile (enclosedReceiver [] [remark]))) := by
  have halike : Node.Alike (· = ·) (fun _ _ => True) .fixed (setterFile plainReceiver)
      (setterFile (enclosedReceiver [] [remark])) := by
    refine alike_setterFile rfl (.parensRight rfl ⟨[_], [remark, _], rfl, ?_⟩ (.leaf rfl rfl))
    simp [remark, Node.kind]
  exact ⟨halike, (lowerFile_transparent _ _).2.1 "Test" _ _ halike ⟨by decide, by decide⟩ ⟨by decide, by decide⟩⟩

/-- With the comment before the receiver, the call has no receiver but the comment. -/
theorem lowerFile_opensWithComment :
    Node.Alike (· = ·) (fun _ _ => True) .fixed (setterFile plainReceiver) (setterFile (enclosedReceiver [remark] [])) ∧
      ¬ SourceFile.Alike (· = ·) (fun _ _ => True) (lowerFile "Test" (setterFile plainReceiver))
        (lowerFile "Test" (setterFile (enclosedReceiver [remark] []))) := by
  constructor
  · refine alike_setterFile rfl (.parensRight rfl ⟨[_, remark], [_], rfl, ?_⟩ (.leaf rfl rfl))
    simp [remark, Node.kind]
  · intro h
    have hplain : lowerFile "Test" (setterFile plainReceiver) = ⟨"Test", [⟨"test", [],
        [.expr (.call (some (.name "c")) "setMax" [.literal .number "1"])], 1⟩]⟩ := rfl
    have hled : lowerFile "Test" (setterFile (enclosedReceiver [remark] [])) = ⟨"Test", [⟨"test", [],
        [.expr (.call (some (.other "/* c */")) "setMax" [.literal .number "1"])], 1⟩]⟩ := rfl
    rw [hplain, hled] at h
    cases h.methods with
    | cons hmethod _ =>
      cases hmethod.body with
      | cons hstmt _ =>
        cases hstmt with
        | expr hcall =>
          cases hcall with
          | call hreceiver _ =>
            cases hreceiver with
            | some hexpr => cases hexpr

end Java

end ConfigCoverage
