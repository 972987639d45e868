import ConfigCoverage.Proofs.JavaForms
import ConfigCoverage.Proofs.JavaLayout
import Mathlib.Data.List.Forall2

/-!
# Trees that are alike

Comments stand between the other children of a node, and an expression may stand in parentheses wherever it gives a
value. Two trees are alike if they differ in nothing else. The rows of what they share may differ too, and so may the
texts of the nodes that hold a difference; the relations `moved` and `raw` say how.

* `Node.Alike`, `Node.RowAlike`: trees and rows of trees that are alike.
* `Expr.Alike`: expressions that are the same but for texts kept as they are written.
* `Matched`: two rows of nodes that match, comments left out.
* `Kind.reads`, `Node.direct`: which nodes are read as expressions, and that no comment comes first in their parentheses.
* `twins_of_alike`: alike trees are lowered to alike expressions.
-/

namespace ConfigCoverage

/-- Two texts that are kept as they are written: the same, or one for the other by `raw`. -/
def Verbatim (raw : String → String → Prop) (text text' : String) : Prop := text = text' ∨ raw text text'

/-- Expressions that are the same but for texts kept as they are written: those of expressions of no further interest,
of types, and of string literals. -/
inductive Expr.Alike (raw : String → String → Prop) : Expr → Expr → Prop
  | name (name : String) : Alike raw (.name name) (.name name)
  | new {type type' : String} {args args' : List Expr} : Verbatim raw type type' → List.Forall₂ (Alike raw) args args' →
    Alike raw (.new type args) (.new type' args')
  | call {receiver receiver' : Option Expr} {method : String} {args args' : List Expr} :
    Option.Rel (Alike raw) receiver receiver' → List.Forall₂ (Alike raw) args args' →
    Alike raw (.call receiver method args) (.call receiver' method args')
  | field {receiver receiver' : Expr} {name : String} : Alike raw receiver receiver' →
    Alike raw (.field receiver name) (.field receiver' name)
  | literal (kind : LiteralKind) (text : String) : Alike raw (.literal kind text) (.literal kind text)
  | str {text text' : String} : raw text text' → Alike raw (.literal .str text) (.literal .str text')
  | array {items items' : List Expr} : List.Forall₂ (Alike raw) items items' → Alike raw (.array items) (.array items')
  | other {text text' : String} : Verbatim raw text text' → Alike raw (.other text) (.other text')

namespace Java

/-! ## Places -/

/-- The kinds of single words, which have no inside. -/
def Kind.isWord : Kind → Bool
  | .token | .comment | .identifier | .number | .character | .boolean | .null => true
  | _ => false

/-- The kinds of expressions. -/
def Kind.isExpression : Kind → Bool
  | .identifier | .number | .character | .string | .boolean | .null | .switchExpression | .assignment
  | .parenthesized | .objectCreation | .methodInvocation | .fieldAccess | .arrayAccess | .arrayInitializer
  | .arrayCreation | .other => true
  | _ => false

/-- What an expression is there for. -/
inductive Place where
  /-- It gives a value, is an argument or an operand, or receives a call. -/
  | value
  /-- It stands bare in the header of a loop. -/
  | header
  /-- It is part of another form. -/
  | fixed
deriving DecidableEq

/-- May an expression of the kind stand there with parentheses as well as without? A `switch` in the header of a loop is
taken for a statement of the loop, but not if it is in parentheses. -/
def Place.allows : Place → Kind → Bool
  | .value, kind => kind.isExpression
  | .header, kind => kind.isExpression && kind != .switchExpression
  | .fixed, _ => false

/-- The place that a node of the kind `parent` has for a child with a label. -/
def Kind.placeOf (parent : Kind) (label : Option Label) : Place :=
  match parent with
  | .arrayAccess | .string | .other => .value
  | .argumentList | .arrayInitializer | .arrayCreation | .objectCreation | .parenthesized =>
    if label = none then .value else .fixed
  | .variableDeclarator | .resource => if label = some .value then .value else .fixed
  | .assignment => if label = some .right then .value else .fixed
  | .methodInvocation | .fieldAccess => if label = some .object then .value else .fixed
  | .forStatement | .enhancedForStatement => if label = none then .header else .fixed
  | _ => .fixed

/-! ## Trees that are alike -/

namespace Node

/-- Among the children of a pair of parentheses, the expression in them; the others are tokens and comments. -/
def Enclosed (inner : Node) (children : List Node) : Prop :=
  ∃ before after, children = before ++ inner :: after ∧ ∀ c ∈ before ++ after, c.kind = .token ∨ c.kind = .comment

variable (moved : Nat → Nat → Prop) (raw : String → String → Prop)

mutual

/-- Two trees at a place that differ only in comments, and in parentheses where the place of an expression allows them.
A node has the same text in both trees, or texts related by `raw`, and words are in rows related by `moved`. -/
inductive Alike : Place → Node → Node → Prop
  | leaf {place : Place} {kind : Kind} {label : Option Label} {p p' : Piece} : p.text = p'.text → moved p.row p'.row →
    Alike place (.leaf kind label p) (.leaf kind label p')
  | branch {place : Place} {kind : Kind} {label : Option Label} {cs cs' : List Node} : RowAlike kind cs cs' →
    (textAll cs = textAll cs' ∨ kind.isWord = false ∧ raw (textAll cs) (textAll cs')) →
    Alike place (.branch kind label cs) (.branch kind label cs')
  | parensLeft {place : Place} {label : Option Label} {cs : List Node} {inner n : Node} :
    place.allows inner.kind = true → inner.Enclosed cs → Alike place (inner.withLabel label) n →
    Alike place (.branch .parenthesized label cs) n
  | parensRight {place : Place} {label : Option Label} {cs : List Node} {inner n : Node} :
    place.allows inner.kind = true → inner.Enclosed cs → Alike place n (inner.withLabel label) →
    Alike place n (.branch .parenthesized label cs)

/-- Two rows of trees below nodes of the kind `parent`. Either may have comments that the other does not have. -/
inductive RowAlike : Kind → List Node → List Node → Prop
  | nil {parent : Kind} : RowAlike parent [] []
  | cons {parent : Kind} {c c' : Node} {cs cs' : List Node} : Alike (parent.placeOf c.label) c c' →
    RowAlike parent cs cs' → RowAlike parent (c :: cs) (c' :: cs')
  | commentLeft {parent : Kind} {c : Node} {cs cs' : List Node} : c.kind = .comment → c.label = none →
    RowAlike parent cs cs' → RowAlike parent (c :: cs) cs'
  | commentRight {parent : Kind} {c : Node} {cs cs' : List Node} : c.kind = .comment → c.label = none →
    RowAlike parent cs cs' → RowAlike parent cs (c :: cs')

end

end Node

/-! ## Rows that match -/

/-- Two rows of nodes that match one by one, comments left out. -/
inductive Matched (R : Node → Node → Prop) : List Node → List Node → Prop
  | nil : Matched R [] []
  | cons {c c' : Node} {cs cs' : List Node} : R c c' → Matched R cs cs' → Matched R (c :: cs) (c' :: cs')
  | commentLeft {c : Node} {cs cs' : List Node} : c.kind = .comment → c.label = none → Matched R cs cs' →
    Matched R (c :: cs) cs'
  | commentRight {c : Node} {cs cs' : List Node} : c.kind = .comment → c.label = none → Matched R cs cs' →
    Matched R cs (c :: cs')

namespace Matched

variable {R : Node → Node → Prop} {cs cs' : List Node}

theorem filter {p : Node → Bool} (h : Matched R cs cs') (hp : ∀ c c', R c c' → p c = p c')
    (hcomment : ∀ c : Node, c.kind = .comment → c.label = none → p c = false) :
    List.Forall₂ (fun c c' => R c c' ∧ p c = true) (cs.filter p) (cs'.filter p) := by
  induction h with
  | nil => exact .nil
  | @cons c c' cs cs' hc hcs ih =>
    rw [List.filter_cons, List.filter_cons, ← hp c c' hc]
    split
    · next htrue => exact .cons ⟨hc, htrue⟩ ih
    · exact ih
  | commentLeft hk hl _ ih => rwa [List.filter_cons, hcomment _ hk hl]
  | commentRight hk hl _ ih => rwa [List.filter_cons, hcomment _ hk hl]

theorem find? {p : Node → Bool} (h : Matched R cs cs') (hp : ∀ c c', R c c' → p c = p c')
    (hcomment : ∀ c : Node, c.kind = .comment → c.label = none → p c = false) :
    Option.Rel (fun c c' => R c c' ∧ p c = true) (cs.find? p) (cs'.find? p) := by
  have hfilter := h.filter hp hcomment
  rw [← List.head?_filter, ← List.head?_filter]
  generalize cs.filter p = ds at hfilter ⊢
  generalize cs'.filter p = ds' at hfilter ⊢
  cases hfilter with
  | nil => exact .none
  | cons hc _ => exact .some hc

end Matched

/-! ## Expressions by the children they are read off -/

theorem lowerFirst_eq (cs : List Node) : lowerFirst cs = (cs.find? Node.isNamed).map lowerExpr := by
  induction cs with
  | nil => rfl
  | cons c cs ih =>
    rw [lowerFirst, List.find?_cons, ih]
    cases c.isNamed <;> rfl

theorem lowerLabeled_eq (l : Label) (cs : List Node) :
    lowerLabeled l cs = (cs.find? fun c => c.label == some l).map lowerExpr := by
  induction cs with
  | nil => rfl
  | cons c cs ih => by_cases h : c.label = some l <;> simp [lowerLabeled, h, ih]

theorem lowerAll_eq (cs : List Node) : lowerAll cs = (cs.filter Node.isContent).map lowerExpr := by
  induction cs with
  | nil => rfl
  | cons c cs ih =>
    rw [lowerAll, List.filter_cons, Node.isContent_eq, ih]
    split <;> rfl

theorem lowerArguments_eq (cs : List Node) :
    lowerArguments cs = ((cs.find? fun c => c.label == some .arguments).map lowerItems).getD [] := by
  induction cs with
  | nil => rfl
  | cons c cs ih => by_cases h : c.label = some .arguments <;> simp [lowerArguments, h, ih]

theorem lowerValues_eq (cs : List Node) :
    lowerValues cs = (cs.find? fun c => c.label == some .value).map lowerItems := by
  induction cs with
  | nil => rfl
  | cons c cs ih => by_cases h : c.label = some .value <;> simp [lowerValues, h, ih]

/-! ## Regular trees -/

theorem Node.isContent_of_comment (n : Node) (hk : n.kind = .comment) (_ : n.label = none) : n.isContent = false := by
  rw [isContent, hk]
  rfl

theorem Node.find?_isNamed_eq {cs : List Node} (h : opensWithComment cs = false) :
    cs.find? isNamed = cs.find? isContent := by
  induction cs with
  | nil => rfl
  | cons c cs ih =>
    rw [opensWithComment, List.find?_cons] at h
    rw [List.find?_cons, List.find?_cons, isContent_eq]
    cases hc : c.isNamed with
    | true =>
      simp only [hc, Option.any_some] at h
      simp [h]
    | false =>
      simp only [hc] at h
      exact ih h

/-- How a node is read. -/
inductive Reading where
  /-- For the members that its children are. -/
  | members
  /-- As a member of a type or of the program. -/
  | member
  /-- For its statements. -/
  | statements
  /-- As the expression of a statement, where both sides of an assignment count. -/
  | effect
  | expression
  /-- For the expressions that its children are. -/
  | items
  | unread
deriving DecidableEq

/-- How the child with a label is read, if a node of the kind is read as an expression. -/
def Kind.readsInside (kind : Kind) (label : Option Label) : Reading :=
  match kind with
  | .parenthesized | .arrayInitializer => .expression
  | .methodInvocation =>
    if label = some .object then .expression else if label = some .arguments then .items else .unread
  | .objectCreation => if label = some .arguments then .items else .unread
  | .fieldAccess => if label = some .object then .expression else .unread
  | .arrayCreation => if label = some .value then .items else .unread
  | _ => .unread

/-- How the child with a label is read, if a node of the kind is read in some way. -/
def Kind.reads (kind : Kind) (reading : Reading) (label : Option Label) : Reading :=
  match reading with
  | .members => .member
  | .member =>
    if kind = .methodDeclaration then if label = some .body then .statements else .unread
    else if kind.isTypeDeclaration then if label = some .body then .members else .unread
    else if kind.isTypeBody then .member
    else .unread
  | .statements =>
    if kind = .expressionStatement then .effect
    else if kind = .variableDeclarator ∨ kind = .resource then if label = some .value then .expression else .unread
    else if kind = .block ∨ kind = .localVariableDeclaration ∨ kind = .resourceSpecification ∨ kind.isCompound = true ∨
      kind.isClause = true then .statements
    else .unread
  | .effect =>
    if kind = .assignment then if label = some .left ∨ label = some .right then .expression else .unread
    else kind.readsInside label
  | .expression => kind.readsInside label
  | .items => .expression
  | .unread => .unread

/-- Parentheses that are read as an expression are followed by their expression, not by a comment. -/
def Kind.direct (kind : Kind) (reading : Reading) (cs : List Node) : Bool :=
  kind != .parenthesized || (reading != .effect && reading != .expression) || !Node.opensWithComment cs

theorem Kind.direct_of_ne {reading : Reading} (hexpression : reading ≠ .expression) (heffect : reading ≠ .effect)
    (kind : Kind) (cs : List Node) : kind.direct reading cs = true := by
  simp [direct, hexpression, heffect]

mutual

/-- No expression that is read has a comment right after its opening parenthesis, if the node is read in some way. -/
def Node.direct : Reading → Node → Bool
  | _, .leaf _ _ _ => true
  | reading, .branch kind _ cs => kind.direct reading cs && directAll (kind.reads reading) cs

/-- No expression that is read has a comment right after its opening parenthesis, if nodes are read by their labels. -/
def Node.directAll : (Option Label → Reading) → List Node → Bool
  | _, [] => true
  | readings, c :: cs => c.direct (readings c.label) && directAll readings cs

end

-- the condition of a statement is not read, so a comment may come first in it
example : Node.direct .statements (.branch .whileStatement none [.branch .parenthesized none [
    .leaf .token none ⟨" ", "(", 0⟩, .leaf .comment none ⟨"", "/* c */", 0⟩, .leaf .identifier none ⟨" ", "c", 0⟩,
    .leaf .token none ⟨"", ")", 0⟩], .leaf .token none ⟨" ", ";", 0⟩]) = true := by decide

namespace Node

variable {n c : Node} {reading : Reading}

theorem directAll_eq_true_iff {readings : Option Label → Reading} {cs : List Node} :
    directAll readings cs = true ↔ ∀ c ∈ cs, c.direct (readings c.label) = true := by
  induction cs with
  | nil => simp [directAll]
  | cons c cs ih => rw [directAll, Bool.and_eq_true, ih, List.forall_mem_cons]

mutual

theorem direct_unread : ∀ n : Node, n.direct .unread = true
  | .leaf _ _ _ => rfl
  | .branch kind _ cs => by
    rw [direct, Kind.direct_of_ne (by decide) (by decide), Bool.true_and]
    exact directAll_unread cs

theorem directAll_unread : ∀ cs : List Node, directAll (fun _ => .unread) cs = true
  | [] => rfl
  | c :: cs => by rw [directAll, direct_unread c, directAll_unread cs, Bool.true_and]

end

/-- Nothing is asked of a node whose children are not read. -/
theorem direct_of_unread (hexpression : reading ≠ .expression) (heffect : reading ≠ .effect)
    (h : ∀ l, n.kind.reads reading l = .unread) : n.direct reading = true := by
  cases n with
  | leaf => rfl
  | branch kind label cs =>
    have hreads : kind.reads reading = fun _ => .unread := funext h
    rw [direct, Kind.direct_of_ne hexpression heffect, hreads, directAll_unread cs, Bool.and_true]

/-- The tree has the shapes of syntax trees, and none of its expressions that are read has a comment right after its
opening parenthesis. -/
structure Regular (reading : Reading) (n : Node) : Prop where
  formed : n.every Kind.formed = true
  direct : n.direct reading = true

namespace Regular

theorem child (h : n.Regular reading) (hc : c ∈ n.children) : c.Regular (n.kind.reads reading c.label) := by
  cases n with
  | leaf => cases hc
  | branch =>
    exact ⟨(every_branch_iff.1 h.formed).2 c hc, directAll_eq_true_iff.1 (Bool.and_eq_true_iff.1 h.direct).2 c hc⟩

theorem withLabel (h : n.Regular reading) (l : Option Label) : (n.withLabel l).Regular reading :=
  ⟨(every_withLabel l n).trans h.formed, by cases n <;> exact h.direct⟩

theorem fits (h : n.Regular reading) (hc : c ∈ n.children) : n.kind.fits c = true := by
  cases n with
  | leaf => cases hc
  | branch => exact List.all_eq_true.1 (Bool.and_eq_true_iff.1 (every_branch_iff.1 h.formed).1).1 c hc

/-- An expression statement begins with its expression. -/
theorem opens_expressionStatement (h : n.Regular reading) (hkind : n.kind = .expressionStatement) :
    opensWithComment n.children = false := by
  cases n with
  | leaf => rfl
  | branch kind =>
    cases hkind
    simpa [children] using (Bool.and_eq_true_iff.1 (every_branch_iff.1 h.formed).1).2

/-- Parentheses that are read begin with their expression. -/
theorem opens_parenthesized (h : n.Regular .expression) (hkind : n.kind = .parenthesized) :
    opensWithComment n.children = false := by
  cases n with
  | leaf => rfl
  | branch kind =>
    cases hkind
    simpa [children, Kind.direct] using (Bool.and_eq_true_iff.1 h.direct).1

/-- What is no assignment is read as a statement as it is read as an expression. -/
theorem expression (h : n.Regular .effect) (hkind : n.kind ≠ .assignment) : n.Regular .expression := by
  refine ⟨h.formed, ?_⟩
  cases n with
  | leaf => rfl
  | branch kind label cs =>
    have hreads : kind.reads .effect = kind.reads .expression := funext fun _ => if_neg hkind
    have hdirect := h.direct
    rw [Node.direct, hreads] at hdirect
    exact hdirect

end Regular

end Node

theorem Kind.isLeaf_of_name {parent : Kind} (h : parent ≠ .simpleMarker) (h' : parent ≠ .argumentMarker) (c : Node)
    (hl : c.label = some .name) (hfits : parent.fits c = true) : c.isLeaf = true := by
  simpa [fits, hl, h, h'] using hfits

theorem Kind.isLeaf_of_field {parent : Kind} (c : Node) (hl : c.label = some .field) (hfits : parent.fits c = true) :
    c.isLeaf = true := by
  simpa [fits, hl] using hfits

/-! ## Parentheses -/

theorem Place.isExpression_of_allows {place : Place} {kind : Kind} (h : place.allows kind = true) :
    kind.isExpression = true := by
  cases place with
  | value => exact h
  | header => exact (Bool.and_eq_true_iff.1 h).1
  | fixed => cases h

theorem Place.isContent_of_allows {place : Place} {kind : Kind} (h : place.allows kind = true) :
    kind.isContent = true := by
  have hexpression := isExpression_of_allows h
  cases kind <;> first | rfl | cases hexpression

theorem Node.Enclosed.mem {inner : Node} {cs : List Node} (h : inner.Enclosed cs) : inner ∈ cs := by
  obtain ⟨before, after, rfl, -⟩ := h
  simp

theorem Node.Enclosed.find? {inner : Node} {cs : List Node} (h : inner.Enclosed cs) (hinner : inner.isContent = true) :
    cs.find? Node.isContent = some inner := by
  obtain ⟨before, after, rfl, hothers⟩ := h
  have hbefore : before.find? Node.isContent = none := by
    rw [List.find?_eq_none]
    intro c hc
    rcases hothers c (List.mem_append_left after hc) with hk | hk <;> simp [isContent, hk, Kind.isContent]
  rw [List.find?_append, hbefore, List.find?_cons, hinner]
  rfl

theorem lowerExpr_withLabel (l : Option Label) (n : Node) : lowerExpr (n.withLabel l) = lowerExpr n := by
  cases n <;> rfl

/-- Parentheses are transparent to what is in them, if it comes first. -/
theorem lowerExpr_parens {label : Option Label} {inner : Node} {cs : List Node} (h : inner.Enclosed cs)
    (hinner : inner.isContent = true) (hopens : Node.opensWithComment cs = false) :
    lowerExpr (.branch .parenthesized label cs) = lowerExpr inner := by
  rw [lowerExpr, lowerFirst_eq, Node.find?_isNamed_eq hopens, h.find? hinner]
  rfl

/-! ## What alike trees share -/

namespace Node

variable {moved : Nat → Nat → Prop} {raw : String → String → Prop} {place : Place} {n n' : Node}

mutual

theorem Alike.refl (hmoved : ∀ row, moved row row) (place : Place) : ∀ n : Node, Alike moved raw place n n
  | leaf _ _ _ => .leaf rfl (hmoved _)
  | branch kind _ cs => .branch (RowAlike.refl hmoved kind cs) (.inl rfl)

theorem RowAlike.refl (hmoved : ∀ row, moved row row) (parent : Kind) :
    ∀ cs : List Node, RowAlike moved raw parent cs cs
  | [] => .nil
  | c :: cs => .cons (Alike.refl hmoved (parent.placeOf c.label) c) (RowAlike.refl hmoved parent cs)

end

theorem Alike.label_eq : ∀ {place : Place} {n n' : Node}, Alike moved raw place n n' → n.label = n'.label
  | _, _, _, .leaf _ _ => rfl
  | _, _, _, .branch _ _ => rfl
  | _, _, _, .parensLeft _ _ h => (label_withLabel _ _).symm.trans h.label_eq
  | _, _, _, .parensRight _ _ h => h.label_eq.trans (label_withLabel _ _)

theorem Alike.isContent_eq : ∀ {place : Place} {n n' : Node}, Alike moved raw place n n' → n.isContent = n'.isContent
  | _, _, _, .leaf _ _ => rfl
  | _, _, _, .branch _ _ => rfl
  | _, _, _, .parensLeft hallows _ h => by
    rw [← h.isContent_eq, isContent_withLabel]
    exact (Place.isContent_of_allows hallows).symm
  | _, _, _, .parensRight hallows _ h => by
    rw [h.isContent_eq, isContent_withLabel]
    exact Place.isContent_of_allows hallows

/-- Where no parentheses may come or go, both nodes have the same kind, and their texts are kept. -/
theorem Alike.kind_eq (h : Alike moved raw .fixed n n') : n.kind = n'.kind := by
  cases h with
  | leaf => rfl
  | branch => rfl
  | parensLeft hallows => cases hallows
  | parensRight hallows => cases hallows

theorem Alike.verbatim_text (h : Alike moved raw .fixed n n') : Verbatim raw n.text n'.text := by
  cases h with
  | leaf htext _ => exact .inl htext
  | branch _ htext => exact htext.imp_right And.right
  | parensLeft hallows => cases hallows
  | parensRight hallows => cases hallows

/-- Two tokens that are alike have the same text, and their rows are related. -/
theorem Alike.of_isLeaf (h : Alike moved raw place n n') (hn : n.isLeaf = true) (hn' : n'.isLeaf = true) :
    n.text = n'.text ∧ moved n.row n'.row := by
  cases h with
  | leaf htext hrow => exact ⟨htext, hrow⟩
  | branch => cases hn
  | parensLeft => cases hn
  | parensRight => cases hn'

end Node

/-! ## Expressions of alike trees -/

theorem rel_cases {α β : Type} {R : α → β → Prop} {a : Option α} {b : Option β} (h : Option.Rel R a b) :
    (a = none ∧ b = none) ∨ ∃ x y, a = some x ∧ b = some y ∧ R x y := by
  cases h with
  | none => exact .inl ⟨rfl, rfl⟩
  | some h => exact .inr ⟨_, _, rfl, rfl, h⟩

theorem rel_map {α β γ δ : Type} {R : α → β → Prop} {S : γ → δ → Prop} {f : α → γ} {g : β → δ} {a : Option α}
    {b : Option β} (h : Option.Rel R a b) (hf : ∀ x y, R x y → S (f x) (g y)) : Option.Rel S (a.map f) (b.map g) := by
  cases h with
  | none => exact .none
  | some h => exact .some (hf _ _ h)

theorem rel_toList {α β : Type} {R : α → β → Prop} {a : Option α} {b : Option β} (h : Option.Rel R a b) :
    List.Forall₂ R a.toList b.toList := by
  cases h with
  | none => exact .nil
  | some h => exact .cons h .nil

section Expressions

variable {moved : Nat → Nat → Prop} {raw : String → String → Prop}

/-- Two regular trees that are alike, and what they are lowered to if they are read as expressions or as lists of
them. -/
structure Twins (moved : Nat → Nat → Prop) (raw : String → String → Prop) (reading : Reading) (place : Place)
    (n n' : Node) : Prop where
  alike : Node.Alike moved raw place n n'
  left : n.Regular reading
  right : n'.Regular reading
  expr : reading = .expression → Expr.Alike raw (lowerExpr n) (lowerExpr n')
  items : reading = .items → place = .fixed → List.Forall₂ (Expr.Alike raw) (lowerItems n) (lowerItems n')

/-- Twins that are children of nodes of the kind `parent`. -/
structure ChildTwins (moved : Nat → Nat → Prop) (raw : String → String → Prop) (reading : Reading) (parent : Kind)
    (c c' : Node) : Prop where
  twins : Twins moved raw (parent.reads reading c.label) (parent.placeOf c.label) c c'
  fits : parent.fits c = true
  fits' : parent.fits c' = true

/-- The children of two nodes of the kind `parent` are twins, comments left out. -/
abbrev TwinRows (moved : Nat → Nat → Prop) (raw : String → String → Prop) (reading : Reading) (parent : Kind) :
    List Node → List Node → Prop :=
  Matched (ChildTwins moved raw reading parent)

namespace TwinRows

variable {reading : Reading} {parent : Kind} {cs cs' : List Node}

theorem labeled (h : TwinRows moved raw reading parent cs cs') (l : Label) :
    Option.Rel (fun c c' => Twins moved raw (parent.reads reading (some l)) (parent.placeOf (some l)) c c' ∧
        ChildTwins moved raw reading parent c c' ∧ c.label = some l)
      (cs.find? fun c => c.label == some l) (cs'.find? fun c => c.label == some l) := by
  have hrel := h.find? (p := fun c => c.label == some l) (fun c c' hc => by rw [hc.twins.alike.label_eq])
    (fun c _ hl => by rw [hl]; rfl)
  rcases rel_cases hrel with ⟨hc, hc'⟩ | ⟨c, c', hc, hc', htwins, hl⟩
  · rw [hc, hc']
    exact .none
  · rw [hc, hc']
    have hlabel : c.label = some l := eq_of_beq hl
    exact .some ⟨hlabel ▸ htwins.twins, htwins, hlabel⟩

/-- The first children with a label are the same word, if only words fit there. -/
theorem same_word (h : TwinRows moved raw reading parent cs cs') {l : Label}
    (hword : ∀ c : Node, c.label = some l → parent.fits c = true → c.isLeaf = true) :
    Option.Rel (fun c c' => c.text = c'.text ∧ moved c.row c'.row) (cs.find? fun c => c.label == some l)
      (cs'.find? fun c => c.label == some l) := by
  rcases rel_cases (h.labeled l) with ⟨hc, hc'⟩ | ⟨c, c', hc, hc', htwins, hchild, hl⟩
  · rw [hc, hc']
    exact .none
  · rw [hc, hc']
    have hl' : c'.label = some l := htwins.alike.label_eq ▸ hl
    exact .some (htwins.alike.of_isLeaf (hword c hl hchild.fits) (hword c' hl' hchild.fits'))

theorem alike_lowerLabeled (h : TwinRows moved raw reading parent cs cs') {l : Label}
    (hreads : parent.reads reading (some l) = .expression) :
    Option.Rel (Expr.Alike raw) (lowerLabeled l cs) (lowerLabeled l cs') := by
  rw [lowerLabeled_eq, lowerLabeled_eq]
  exact rel_map (h.labeled l) fun _ _ hc => hc.1.expr hreads

theorem isContent_eq (c c' : Node) (h : ChildTwins moved raw reading parent c c') : c.isContent = c'.isContent :=
  h.twins.alike.isContent_eq

/-- The first children that are more than tokens are twins, if neither is a comment. -/
theorem first (h : TwinRows moved raw reading parent cs cs') (hopens : Node.opensWithComment cs = false)
    (hopens' : Node.opensWithComment cs' = false) :
    Option.Rel (ChildTwins moved raw reading parent) (cs.find? Node.isNamed) (cs'.find? Node.isNamed) := by
  rw [Node.find?_isNamed_eq hopens, Node.find?_isNamed_eq hopens']
  rcases rel_cases (h.find? isContent_eq Node.isContent_of_comment) with ⟨hc, hc'⟩ | ⟨c, c', hc, hc', htwins, -⟩
  · rw [hc, hc']
    exact .none
  · rw [hc, hc']
    exact .some htwins

theorem alike_lowerAll (h : TwinRows moved raw reading parent cs cs')
    (hreads : ∀ l, parent.reads reading l = .expression) :
    List.Forall₂ (Expr.Alike raw) (lowerAll cs) (lowerAll cs') := by
  rw [lowerAll_eq, lowerAll_eq, List.forall₂_map_left_iff, List.forall₂_map_right_iff]
  exact (h.filter isContent_eq Node.isContent_of_comment).imp fun _ _ hc => hc.1.twins.expr (hreads _)

theorem alike_lowerArguments (h : TwinRows moved raw reading parent cs cs')
    (hreads : parent.reads reading (some .arguments) = .items) (hplace : parent.placeOf (some .arguments) = .fixed) :
    List.Forall₂ (Expr.Alike raw) (lowerArguments cs) (lowerArguments cs') := by
  rw [lowerArguments_eq, lowerArguments_eq]
  rcases rel_cases (h.labeled .arguments) with ⟨hc, hc'⟩ | ⟨c, c', hc, hc', htwins, -⟩
  · rw [hc, hc']
    exact .nil
  · rw [hc, hc']
    exact htwins.items hreads hplace

theorem alike_lowerValues (h : TwinRows moved raw reading parent cs cs')
    (hreads : parent.reads reading (some .value) = .items) (hplace : parent.placeOf (some .value) = .fixed) :
    Option.Rel (List.Forall₂ (Expr.Alike raw)) (lowerValues cs) (lowerValues cs') := by
  rw [lowerValues_eq, lowerValues_eq]
  exact rel_map (h.labeled .value) fun _ _ hc => hc.1.items hreads hplace

end TwinRows

theorem alike_lowerExpr_leaf {kind : Kind} {label : Option Label} {p p' : Piece} (htext : p.text = p'.text) :
    Expr.Alike raw (lowerExpr (.leaf kind label p)) (lowerExpr (.leaf kind label p')) := by
  unfold lowerExpr
  rw [htext]
  split
  · exact .name _
  · split
    · exact .literal _ _
    · exact .other (.inl rfl)

section Branch

variable {kind : Kind} {l : Option Label} {cs cs' : List Node}

/-- What an expression is read off: its text, and the children that are no comments. -/
theorem alike_lowerExpr_branch (h : TwinRows moved raw .expression kind cs cs')
    (htext : Node.textAll cs = Node.textAll cs' ∨ kind.isWord = false ∧ raw (Node.textAll cs) (Node.textAll cs'))
    (hcs : (Node.branch kind l cs).Regular .expression) (hcs' : (Node.branch kind l cs').Regular .expression) :
    Expr.Alike raw (lowerExpr (.branch kind l cs)) (lowerExpr (.branch kind l cs')) := by
  have hother : Expr.Alike raw (.other (Node.textAll cs)) (.other (Node.textAll cs')) :=
    .other (htext.imp_right And.right)
  have hliteral : ∀ k, Node.textAll cs = Node.textAll cs' →
      Expr.Alike raw (.literal k (Node.textAll cs)) (.literal k (Node.textAll cs')) := fun k heq => by
    rw [heq]
    exact .literal k _
  have hword : kind.isWord = true → Node.textAll cs = Node.textAll cs' := fun hk =>
    htext.resolve_right fun hraw => by simp [hk] at hraw
  cases kind
  case identifier =>
    rw [lowerExpr, lowerExpr, Node.text, Node.text, hword rfl]
    exact .name _
  case parenthesized =>
    rw [lowerExpr, lowerExpr, lowerFirst_eq, lowerFirst_eq]
    rcases rel_cases (h.first (hcs.opens_parenthesized rfl) (hcs'.opens_parenthesized rfl)) with
      ⟨hc, hc'⟩ | ⟨c, c', hc, hc', hchild⟩
    · rw [hc, hc']
      exact hother
    · rw [hc, hc']
      exact hchild.twins.expr rfl
  case objectCreation =>
    rcases rel_cases (h.labeled .type) with ⟨hc, hc'⟩ | ⟨c, c', hc, hc', htwins, -⟩
    · simpa only [lowerExpr, Node.child?, Node.children, Node.text, hc, hc'] using hother
    · simpa only [lowerExpr, Node.child?, Node.children, hc, hc'] using
        .new htwins.alike.verbatim_text (h.alike_lowerArguments rfl rfl)
  case methodInvocation =>
    rcases rel_cases (h.same_word (Kind.isLeaf_of_name (by decide) (by decide))) with
      ⟨hc, hc'⟩ | ⟨c, c', hc, hc', hname, -⟩
    · simpa only [lowerExpr, Node.child?, Node.children, Node.text, hc, hc'] using hother
    · simpa only [lowerExpr, Node.child?, Node.children, hc, hc', hname] using
        .call (h.alike_lowerLabeled rfl) (h.alike_lowerArguments rfl rfl)
  case fieldAccess =>
    rcases rel_cases (h.alike_lowerLabeled (l := .object) rfl) with ⟨ho, ho'⟩ | ⟨o, o', ho, ho', hobject⟩
    · simpa only [lowerExpr, Node.text, ho, ho'] using hother
    · rcases rel_cases (h.same_word Kind.isLeaf_of_field) with ⟨hc, hc'⟩ | ⟨c, c', hc, hc', hname, -⟩
      · simpa only [lowerExpr, Node.child?, Node.children, Node.text, ho, ho', hc, hc'] using hother
      · simpa only [lowerExpr, Node.child?, Node.children, ho, ho', hc, hc', hname] using .field hobject
  case arrayInitializer =>
    exact .array (h.alike_lowerAll fun _ => rfl)
  case arrayCreation =>
    rcases rel_cases (h.alike_lowerValues rfl rfl) with ⟨hc, hc'⟩ | ⟨c, c', hc, hc', hitems⟩
    · simpa only [lowerExpr, Node.text, hc, hc'] using hother
    · simpa only [lowerExpr, hc, hc'] using .array hitems
  case string =>
    rcases htext with htext | ⟨-, hraw⟩
    · exact hliteral .str htext
    · exact .str hraw
  case number | character | boolean | null => exact hliteral _ (hword rfl)
  all_goals exact hother

end Branch

mutual

/-- Alike trees are lowered to alike expressions. -/
theorem twins_of_alike : ∀ {reading : Reading} {place : Place} {n n' : Node}, Node.Alike moved raw place n n' →
    n.Regular reading → n'.Regular reading → Twins moved raw reading place n n'
  | _, _, _, _, .leaf htext hrow, h, h' =>
    ⟨.leaf htext hrow, h, h', fun _ => alike_lowerExpr_leaf htext, fun _ _ => .nil⟩
  | reading, _, _, _, .branch hrow htext, h, h' => by
    have hrows := twinRows_of_rowAlike hrow (fun _ hc => ⟨h.child hc, h.fits hc⟩)
      (fun _ hc => ⟨h'.child hc, h'.fits hc⟩)
    refine ⟨.branch hrow htext, h, h', fun hreading => ?_, fun hreading _ => ?_⟩
    · subst hreading
      exact alike_lowerExpr_branch hrows htext h h'
    · subst hreading
      exact hrows.alike_lowerAll fun _ => rfl
  | reading, _, _, _, .parensLeft hallows henclosed halike, h, h' => by
    refine ⟨.parensLeft hallows henclosed halike, h, h', fun hreading => ?_,
      fun _ hplace => by rw [hplace] at hallows; cases hallows⟩
    subst hreading
    have hexpr := (twins_of_alike halike ((h.child henclosed.mem).withLabel _) h').expr rfl
    rwa [lowerExpr_withLabel,
      ← lowerExpr_parens henclosed (Place.isContent_of_allows hallows) (h.opens_parenthesized rfl)] at hexpr
  | reading, _, _, _, .parensRight hallows henclosed halike, h, h' => by
    refine ⟨.parensRight hallows henclosed halike, h, h', fun hreading => ?_,
      fun _ hplace => by rw [hplace] at hallows; cases hallows⟩
    subst hreading
    have hexpr := (twins_of_alike halike h ((h'.child henclosed.mem).withLabel _)).expr rfl
    rwa [lowerExpr_withLabel,
      ← lowerExpr_parens henclosed (Place.isContent_of_allows hallows) (h'.opens_parenthesized rfl)] at hexpr

theorem twinRows_of_rowAlike : ∀ {reading : Reading} {parent : Kind} {cs cs' : List Node},
    Node.RowAlike moved raw parent cs cs' → (∀ c ∈ cs, c.Regular (parent.reads reading c.label) ∧ parent.fits c = true) →
    (∀ c ∈ cs', c.Regular (parent.reads reading c.label) ∧ parent.fits c = true) →
    TwinRows moved raw reading parent cs cs'
  | _, _, _, _, .nil, _, _ => .nil
  | _, _, _, _, .cons hc hcs, h, h' => by
    obtain ⟨⟨hregular, hfits⟩, h⟩ := List.forall_mem_cons.1 h
    obtain ⟨⟨hregular', hfits'⟩, h'⟩ := List.forall_mem_cons.1 h'
    rw [← hc.label_eq] at hregular'
    exact .cons ⟨twins_of_alike hc hregular hregular', hfits, hfits'⟩ (twinRows_of_rowAlike hcs h h')
  | _, _, _, _, .commentLeft hk hl hcs, h, h' =>
    .commentLeft hk hl (twinRows_of_rowAlike hcs (List.forall_mem_cons.1 h).2 h')
  | _, _, _, _, .commentRight hk hl hcs, h, h' =>
    .commentRight hk hl (twinRows_of_rowAlike hcs h (List.forall_mem_cons.1 h').2)

end

end Expressions

end Java

end ConfigCoverage
