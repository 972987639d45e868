/-!
# Test programs

The part of a program that the analysis looks at, common to all source languages: methods with markers and a body of
statements. Branches and loops are blocks; whatever has no bearing on the configuration of an object is `other`.

* `flatten`: the statements of a body in source order, blocks opened.
* `body_induction`: induction over a body and the bodies of its blocks.
-/

namespace ConfigCoverage

/-- The kinds of literals. A `str` or `char` keeps the quotes it was written with; a `text` is a decoded string. -/
inductive LiteralKind where
  | str
  | text
  | char
  | number
  | bool
  | null
deriving DecidableEq, Repr

/-- A value expression. -/
inductive Expr where
  /-- A bare name. -/
  | name (name : String)
  /-- The construction of an object. -/
  | new (typeName : String) (args : List Expr)
  /-- A call, on a receiver or free. -/
  | call (receiver : Option Expr) (method : String) (args : List Expr)
  /-- A field of a receiver. -/
  | field (receiver : Expr) (name : String)
  | literal (kind : LiteralKind) (text : String)
  | array (items : List Expr)
  /-- Any other expression, as it is written. -/
  | other (text : String)
deriving Repr, Inhabited

/-- A string literal with the given contents. -/
def Expr.string (contents : String) : Expr := .literal .str ("\"" ++ contents ++ "\"")

/-- A statement. -/
inductive Stmt where
  /-- The declaration of a local variable. -/
  | localDecl (name : String) (declaredType : Option String) (init : Option Expr)
  | assign (target value : Expr)
  | expr (e : Expr)
  | block (body : List Stmt)
  | other
deriving Repr, Inhabited

/-- A method, or a function at the top level. The markers are the simple names of its annotations or decorators. -/
structure Method where
  name : String
  markers : List String
  body : List Stmt
  line : Nat
deriving Repr, Inhabited

/-- A source file. -/
structure SourceFile where
  name : String
  methods : List Method
deriving Repr, Inhabited

mutual

/-- The statements of a statement: those of a block, or itself. -/
def Stmt.flatten : Stmt → List Stmt
  | .block body => flatten body
  | s => [s]

/-- The statements of a body in source order, blocks opened at every depth. -/
def flatten : List Stmt → List Stmt
  | [] => []
  | s :: ss => s.flatten ++ flatten ss

end

/-- Is a statement a block? -/
def Stmt.isBlock : Stmt → Bool
  | .block _ => true
  | _ => false

/-- Induction over a nested body: its first statement is a block, with a body of its own, or it is none. -/
theorem body_induction {P : List Stmt → Prop} (nil : P [])
    (block : ∀ inner ss, P inner → P ss → P (.block inner :: ss))
    (leaf : ∀ s ss, s.isBlock = false → P ss → P (s :: ss)) : ∀ ss, P ss
  | [] => nil
  | .block inner :: ss =>
    block inner ss (body_induction nil block leaf inner) (body_induction nil block leaf ss)
  | .localDecl x t e :: ss => leaf (.localDecl x t e) ss rfl (body_induction nil block leaf ss)
  | .assign x e :: ss => leaf (.assign x e) ss rfl (body_induction nil block leaf ss)
  | .expr e :: ss => leaf (.expr e) ss rfl (body_induction nil block leaf ss)
  | .other :: ss => leaf .other ss rfl (body_induction nil block leaf ss)

theorem flatten_block_cons (inner ss : List Stmt) : flatten (.block inner :: ss) = flatten inner ++ flatten ss := rfl

theorem flatten_leaf_cons {s : Stmt} (hs : s.isBlock = false) (ss : List Stmt) :
    flatten (s :: ss) = s :: flatten ss := by
  cases s with
  | block => cases hs
  | localDecl | assign | expr | other => rfl

theorem flatten_append (ss ts : List Stmt) : flatten (ss ++ ts) = flatten ss ++ flatten ts := by
  induction ss with
  | nil => rfl
  | cons s ss ih => rw [List.cons_append, flatten, flatten, ih, List.append_assoc]

end ConfigCoverage
