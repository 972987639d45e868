import ConfigCoverage.Binding
import ConfigCoverage.Program
import ConfigCoverage.Python.Tree
import ConfigCoverage.Text.Case

/-!
# Test programs of Python sources

Test functions stand at the top level or in classes. A call of a name that looks like that of a class constructs an
object.

* `lowerTerm`, `lowerSuite`: expressions and statements.
* `lowerModule`: the functions of a source.
-/

namespace ConfigCoverage.Python

/-- Does a name look like that of a class: an upper case letter first, and a lower case one later? -/
def isClassName (name : String) : Bool :=
  match name.toList with
  | [] => false
  | c :: cs => isUppercase c && cs.any isLowercase

mutual

/-- The expression of a term. Values of keyword arguments stand in for missing positional ones. -/
def lowerTerm : Term → Expr
  | .name id => .name id
  | .member _ value attr => .field (lowerTerm value) attr
  | .call text func args keywords =>
    let args := if args.isEmpty then lowerKeywords keywords else lowerTerms args
    match func with
    | .member funcText value attr =>
      if isClassName attr then .new funcText args else .call (some (lowerTerm value)) attr args
    | .name id => if isClassName id then .new id args else .call none id args
    | _ => .other text
  | .string value => .literal .text value
  | .bool value => .literal .bool (if value then "True" else "False")
  | .none => .literal .null "None"
  | .number text => .literal .number text
  | .sequence items => .array (lowerTerms items)
  | .subscript text _ => .other text
  | .other text => .other text

/-- The expressions of terms. -/
def lowerTerms : List Term → List Expr
  | [] => []
  | t :: ts => lowerTerm t :: lowerTerms ts

/-- The values of the keyword arguments that have a name. -/
def lowerKeywords : List (Option String × Term) → List Expr
  | [] => []
  | (some _, t) :: ks => lowerTerm t :: lowerKeywords ks
  | (none, _) :: ks => lowerKeywords ks

end

/-- The simple name of the type that a term names. -/
def typeOfTerm? : Term → Option String
  | .name id => some id
  | .member _ _ attr => some attr
  | .subscript _ value => typeOfTerm? value
  | .string value => some (lastSegment value)
  | _ => none

/-- The simple name of a decorator. -/
def decoratorName? : Term → Option String
  | .name id => some id
  | .member _ _ attr => some attr
  | .call _ func _ _ => decoratorName? func
  | _ => none

/-- The assignment to one target of a chain. -/
def lowerTarget (value : Expr) (target : Term) : Stmt :=
  match target with
  | .name _ | .member _ _ _ => .assign (lowerTerm target) value
  | _ => .other

/-- The declaration of a target's type. -/
def lowerAnnotated (target type : Term) (value : Option Term) : Stmt :=
  match target, value with
  | .name id, _ => .localDecl id (typeOfTerm? type) (value.map lowerTerm)
  | .member _ _ _, some value => .assign (lowerTerm target) (lowerTerm value)
  | _, _ => .other

/-- A context that is bound to a name is assigned to it. -/
def lowerItem? : Term × Option Term → Option Stmt
  | (context, some (.name id)) => some (.assign (.name id) (lowerTerm context))
  | _ => none

mutual

/-- The statements of a statement. -/
def lowerStatement : Statement → List Stmt
  | .assign targets value => targets.map (lowerTarget (lowerTerm value))
  | .annotated target type value => [lowerAnnotated target type value]
  | .expression value => [.expr (lowerTerm value)]
  | .ifElse body orelse => [.block (lowerSuite body ++ lowerSuite orelse)]
  | .forLoop body orelse => [.block (lowerSuite body ++ lowerSuite orelse)]
  | .whileLoop body orelse => [.block (lowerSuite body ++ lowerSuite orelse)]
  | .withBlock items body => [.block (items.filterMap lowerItem? ++ lowerSuite body)]
  | .tryBlock body handlers orelse final =>
    [.block (lowerSuite body ++ lowerSuites handlers ++ lowerSuite orelse ++ lowerSuite final)]
  | .tryGroup _ _ _ _ => [.other]
  | .matchBlock _ => [.other]
  | .function _ _ _ _ => [.other]
  | .classDef _ => [.other]
  | .other => [.other]

/-- The statements of a suite. -/
def lowerSuite : List Statement → List Stmt
  | [] => []
  | s :: ss => lowerStatement s ++ lowerSuite ss

/-- The statements of suites, one after the other. -/
def lowerSuites : List (List Statement) → List Stmt
  | [] => []
  | ss :: rest => lowerSuite ss ++ lowerSuites rest

end

mutual

/-- The functions of a statement. -/
def methodsOf : Statement → List Method
  | .function decorators name body row => [⟨name, decorators.filterMap decoratorName?, lowerSuite body, row + 1⟩]
  | .classDef body => collectMethods body
  | _ => []

/-- The functions at the level of a suite and in its classes. -/
def collectMethods : List Statement → List Method
  | [] => []
  | s :: ss => methodsOf s ++ collectMethods ss

end

/-- The program of a source. -/
def lowerModule (fileName : String) (body : List Statement) : SourceFile := ⟨fileName, collectMethods body⟩

end ConfigCoverage.Python
