import ConfigCoverage.Program
import ConfigCoverage.Sorted.Map
import ConfigCoverage.Text.Blank

/-!
# What local names stand for

The statements of a body are read in order. Each name that was written stands for an instance of the module under test
or for something else; the last write counts, whatever branch it is in.

* `simpleTypeName`: a type reference without qualifiers, generic arguments and array brackets.
* `track`: what the names stand for at each statement, that statement's own write included.
-/

namespace ConfigCoverage

/-! ## Type references -/

/-- Drop pairs of brackets at the front of a reversed text. -/
def dropBracketPairs : List Char → List Char
  | ']' :: '[' :: cs => dropBracketPairs cs
  | cs => cs

/-- The part after the last `sep`. -/
def afterLast (sep : Char) (cs : List Char) : List Char := (cs.reverse.takeWhile (· != sep)).reverse

/-- A type reference without qualifiers, generic arguments and array brackets, on characters. -/
def simpleTypeChars (cs : List Char) : List Char :=
  let base := (dropBracketPairs (cs.takeWhile (· != '<')).reverse).reverse
  trimBlank (afterLast '.' (trimBlank base))

/-- A type reference without qualifiers, generic arguments and array brackets. -/
def simpleTypeName (typeRef : String) : String := String.ofList (simpleTypeChars typeRef.toList)

/-- The last part of a dotted name. -/
def lastSegment (name : String) : String := String.ofList (trimBlank (afterLast '.' name.toList))

/-- The module under test, by its simple or qualified name. -/
structure ModuleId where
  identifier : String
deriving DecidableEq, Repr

namespace ModuleId

/-- The name by which types are compared. -/
def simpleName (m : ModuleId) : String := simpleTypeName m.identifier

/-- Does a type reference denote the module? -/
def matchesType (m : ModuleId) (typeRef : String) : Bool :=
  m.simpleName != "" && simpleTypeName typeRef == m.simpleName

end ModuleId

/-! ## Bindings -/

/-- What a name stands for. -/
inductive Binding where
  | unbound
  | module
  | other
deriving DecidableEq, Repr, Inhabited

/-- A write of an instance of the module, or of something else. -/
def Binding.ofModule (isModule : Bool) : Binding := if isModule then .module else .other

/-- What the names written so far stand for. -/
structure Bindings where
  states : SortedMap String Binding

namespace Bindings

/-- Nothing is written. -/
def empty : Bindings := ⟨.empty⟩

instance : Inhabited Bindings := ⟨empty⟩

/-- What `name` stands for; a name that was never written is unbound. -/
def state (b : Bindings) (name : String) : Binding := (b.states.get? name).getD .unbound

/-- Does `name` stand for an instance of the module? -/
def isModule (b : Bindings) (name : String) : Bool := b.state name == .module

/-- Is `e` a bare name of an instance of the module? -/
def refersToModule (b : Bindings) : Expr → Bool
  | .name n => b.isModule n
  | _ => false

/-- Write `name`. -/
def set (b : Bindings) (name : String) (s : Binding) : Bindings := ⟨b.states.put name s⟩

/-- The names of instances of the module, ascending. -/
def moduleNames (b : Bindings) : List String :=
  (b.states.entries.filter fun e => e.2 == .module).map Prod.fst

theorem state_set (b : Bindings) (x y : String) (s : Binding) :
    (b.set x s).state y = if y = x then s else b.state y := by
  unfold state set SortedMap.put
  rw [SortedMap.get?_alter]
  split <;> simp_all

theorem refersToModule_eq_true_iff {b : Bindings} {e : Expr} :
    b.refersToModule e = true ↔ ∃ x, e = .name x ∧ b.state x = .module := by
  cases e <;> simp [refersToModule, isModule]

end Bindings

/-- Is an assigned value an instance of the module? -/
def isModuleValue (m : ModuleId) (b : Bindings) : Expr → Bool
  | .new t _ => m.matchesType t
  | e => b.refersToModule e

/-- What a declared variable stands for. -/
def declaredBinding (m : ModuleId) (b : Bindings) (declaredType : Option String) : Option Expr → Binding
  | none => .unbound
  | some (.new t _) => .ofModule (m.matchesType t)
  | some e => .ofModule (declaredType.any m.matchesType || b.refersToModule e)

/-- The bindings after a statement. -/
def bindStmt (m : ModuleId) (b : Bindings) : Stmt → Bindings
  | .localDecl name declaredType init => b.set name (declaredBinding m b declaredType init)
  | .assign (.name name) value => b.set name (.ofModule (isModuleValue m b value))
  | _ => b

/-- The bindings after each statement, starting from `b`. -/
def trackFrom (m : ModuleId) (b : Bindings) : List Stmt → List Bindings
  | [] => []
  | s :: ss => bindStmt m b s :: trackFrom m (bindStmt m b s) ss

/-- The bindings after each statement of a body. -/
def track (m : ModuleId) (body : List Stmt) : List Bindings := trackFrom m .empty body

end ConfigCoverage
