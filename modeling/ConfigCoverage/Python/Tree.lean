/-!
# Python trees

The expressions and statements of a Python source, as far as the forms matter to the analysis. An expression keeps the
text it was written with where that can be asked for.
-/

namespace ConfigCoverage.Python

/-- An expression. -/
inductive Term where
  | name (id : String)
  /-- A member of a value. -/
  | member (text : String) (value : Term) (attr : String)
  /-- A call; a keyword argument without a name unpacks a mapping. -/
  | call (text : String) (func : Term) (args : List Term) (keywords : List (Option String × Term))
  /-- A string literal by its value. -/
  | string (value : String)
  | bool (value : Bool)
  | none
  | number (text : String)
  /-- A list, a tuple or a set. -/
  | sequence (items : List Term)
  | subscript (text : String) (value : Term)
  | other (text : String)
deriving Repr, Inhabited

/-- A statement. Asynchronous forms are not told from plain ones. -/
inductive Statement where
  /-- A chain of assignments of one value. -/
  | assign (targets : List Term) (value : Term)
  /-- A declaration of the type of a target, perhaps with a value. -/
  | annotated (target type : Term) (value : Option Term)
  | expression (value : Term)
  | ifElse (body orelse : List Statement)
  /-- A loop over a sequence. -/
  | forLoop (body orelse : List Statement)
  | whileLoop (body orelse : List Statement)
  /-- Contexts with the targets they are bound to. -/
  | withBlock (items : List (Term × Option Term)) (body : List Statement)
  | tryBlock (body : List Statement) (handlers : List (List Statement)) (orelse final : List Statement)
  /-- A `try` whose handlers take groups of exceptions. -/
  | tryGroup (body : List Statement) (handlers : List (List Statement)) (orelse final : List Statement)
  | matchBlock (cases : List (List Statement))
  /-- A function; `row` counts the line feeds before its `def`. -/
  | function (decorators : List Term) (name : String) (body : List Statement) (row : Nat)
  | classDef (body : List Statement)
  | other
deriving Repr, Inhabited

end ConfigCoverage.Python
