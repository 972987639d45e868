import ConfigCoverage.Binding
import ConfigCoverage.Sorted.Set
import ConfigCoverage.Spelling
import ConfigCoverage.Text.Case

/-!
# Properties

A statement configures an instance of the module in two ways: by a setter, `check.setMax(1)`, and by an assignment to a
field, `check.max = 1`. Both give the property `max` the value `1`.

* `setterProperty`: which property a method sets.
* `extract`: the properties that a body sets, given the bindings at each of its statements.
-/

namespace ConfigCoverage

/-- A property with the value a test gives it. -/
structure Property where
  name : String
  value : String
deriving DecidableEq, Repr, Inhabited

namespace Property

/-- By name, then by value. -/
instance : Ord Property := ⟨fun p q => (compare p.name q.name).then (compare p.value q.value)⟩

theorem compare_def (p q : Property) :
    compare p q = (compare p.name q.name).then (compare p.value q.value) := rfl

instance : Std.LawfulEqOrd Property where
  compare_self := by intro p; simp [compare_def]
  eq_of_compare := by
    intro p q h
    rw [compare_def, Ordering.then_eq_eq] at h
    cases p; cases q
    simp_all

instance : Std.TransOrd Property where
  eq_swap := by
    intro p q
    have hn : compare p.name q.name = (compare q.name p.name).swap := Std.OrientedCmp.eq_swap
    have hv : compare p.value q.value = (compare q.value p.value).swap := Std.OrientedCmp.eq_swap
    rw [compare_def, compare_def, hn, hv]
    cases compare q.name p.name <;> rfl
  isLE_trans := by
    intro p q r h₁ h₂
    rw [compare_def] at *
    rcases h : compare p.name q.name with _ | _ | _ <;> rcases h' : compare q.name r.name with _ | _ | _ <;>
      simp only [h, h', Ordering.then] at h₁ h₂ <;> first
      | exact absurd h₁ (by decide)
      | exact absurd h₂ (by decide)
      | skip
    · simp [Std.TransCmp.lt_trans h h']
    · simp [Std.TransCmp.lt_of_lt_of_eq h h']
    · simp [Std.TransCmp.lt_of_eq_of_lt h h']
    · simp only [Std.TransCmp.eq_trans h h', Ordering.then]
      exact Std.TransCmp.isLE_trans h₁ h₂

/-- A property as it is shown. -/
def render (p : Property) : String := p.name ++ "=" ++ p.value

end Property

/-- The properties that a test sets. -/
abbrev PropertySet := SortedSet Property

/-! ## Setters -/

/-- Split off a beginning of `n` bytes, if it ends between two characters. -/
def splitBytes : Nat → List Char → Option (List Char × List Char)
  | 0, cs => some ([], cs)
  | _ + 1, [] => none
  | n + 1, c :: cs =>
    if c.utf8Size ≤ n + 1 then (splitBytes (n + 1 - c.utf8Size) cs).map fun (h, r) => (c :: h, r) else none

/-- The text without one underscore in front. -/
def dropUnderscore : List Char → List Char
  | '_' :: cs => cs
  | cs => cs

/-- The property that a method sets: the part after `start`, which is found whatever its ASCII case, without an
underscore in front and with its first letter in lower case. -/
def setterProperty (start method : String) : Option String :=
  match splitBytes start.utf8ByteSize method.toList with
  | none => none
  | some (head, rest) =>
    if head.map Char.toLower = start.toList.map Char.toLower then
      match dropUnderscore rest with
      | [] => none
      | c :: cs => some (String.ofList (lowercase c ++ cs))
    else none

/-! ## Extraction -/

/-- The property that a statement sets under the given bindings. -/
def stmtProperty (propertyName : String → Option String) (b : Bindings) : Stmt → Option Property
  | .expr (.call (some receiver) method args) =>
    if b.refersToModule receiver then
      match propertyName method, args with
      | none, _ => none
      | some _, [] => none
      | some name, [value] => some ⟨name, value.spelling⟩
      | some name, values => some ⟨name, joinedSpelling values⟩
    else none
  | .assign (.field receiver name) value =>
    if b.refersToModule receiver then some ⟨name, value.spelling⟩ else none
  | _ => none

/-- The properties that statements set, each under the bindings at its place. -/
def extract (propertyName : String → Option String) (body : List Stmt) (bindings : List Bindings) : PropertySet :=
  .ofList ((body.zip bindings).filterMap fun (s, b) => stmtProperty propertyName b s)

end ConfigCoverage
