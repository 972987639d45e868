import ConfigCoverage.Proofs.Alias
import ConfigCoverage.Proofs.Results
import ConfigCoverage.Proofs.Walk

/-!
# Renaming local names

Which properties a test case sets does not depend on the names of its variables: a name is only ever compared with
another name. The values are texts, so they stay the same where no name in them is changed.

* `Renamed.step`: bindings that agree along a renaming still do after a statement and its renamed form.
* `stmtProperty_rename`: a renamed statement yields the same property, with the renamed value.
* `map_emitted_rename`: two whole runs side by side.
* `testCaseProperties_rename`: the properties of a renamed test case.
-/

namespace ConfigCoverage

/-! ## Renamed programs -/

section Definitions

variable (r : String → String)

mutual

/-- An expression with every bare name in it replaced. Types, methods and fields keep their names. -/
def Expr.rename : Expr → Expr
  | .name x => .name (r x)
  | .new t args => .new t (renameExprs args)
  | .call none method args => .call none method (renameExprs args)
  | .call (some receiver) method args => .call (some receiver.rename) method (renameExprs args)
  | .field receiver name => .field receiver.rename name
  | .literal kind text => .literal kind text
  | .array items => .array (renameExprs items)
  | .other text => .other text

/-- Expressions with every bare name in them replaced. -/
def renameExprs : List Expr → List Expr
  | [] => []
  | e :: es => e.rename :: renameExprs es

end

mutual

/-- A statement with every declared name and every bare name in it replaced. -/
def Stmt.rename : Stmt → Stmt
  | .localDecl x declaredType init => .localDecl (r x) declaredType (init.map (Expr.rename r))
  | .assign target value => .assign (target.rename r) (value.rename r)
  | .expr e => .expr (e.rename r)
  | .block body => .block (renameBody body)
  | .other => .other

/-- The statements of a body, renamed at every depth. -/
def renameBody : List Stmt → List Stmt
  | [] => []
  | s :: ss => s.rename :: renameBody ss

end

/-- A method with the names in its body replaced. -/
def Method.rename (method : Method) : Method := { method with body := renameBody r method.body }

end Definitions

mutual

/-- The bare names in an expression, at every depth. -/
def Expr.names : Expr → List String
  | .name x => [x]
  | .new _ args => namesOfExprs args
  | .call none _ args => namesOfExprs args
  | .call (some receiver) _ args => receiver.names ++ namesOfExprs args
  | .field receiver _ => receiver.names
  | .array items => namesOfExprs items
  | .literal _ _ => []
  | .other _ => []

/-- The bare names in expressions, at every depth. -/
def namesOfExprs : List Expr → List String
  | [] => []
  | e :: es => e.names ++ namesOfExprs es

end

/-- The expressions whose spelling is the value of a property: the arguments of a setter, and what is assigned to a
field. -/
def Stmt.propertyValues (propertyName : String → Option String) : Stmt → List Expr
  | .expr (.call (some _) method args) => if (propertyName method).isSome then args else []
  | .assign (.field _ _) value => [value]
  | _ => []

/-- The names of properties. -/
def PropertySet.names (ps : PropertySet) : SortedSet String := .ofList (ps.toList.map Property.name)

theorem PropertySet.names_ofList (ps : List Property) :
    PropertySet.names (.ofList ps) = .ofList (ps.map Property.name) := by
  refine SortedSet.ext_mem fun name => ?_
  simp [PropertySet.names, ← SortedSet.mem_def]

variable {r : String → String}

mutual

/-- An expression all of whose names are kept is kept. -/
theorem Expr.rename_of_fixed : ∀ e : Expr, (∀ x ∈ e.names, r x = x) → e.rename r = e
  | .name x, h => by rw [Expr.rename, h x (by simp [Expr.names])]
  | .new t args, h => by rw [Expr.rename, renameExprs_of_fixed args h]
  | .call none method args, h => by rw [Expr.rename, renameExprs_of_fixed args h]
  | .call (some receiver) method args, h => by
    rw [Expr.names, List.forall_mem_append] at h
    rw [Expr.rename, Expr.rename_of_fixed receiver h.1, renameExprs_of_fixed args h.2]
  | .field receiver name, h => by rw [Expr.rename, Expr.rename_of_fixed receiver h]
  | .array items, h => by rw [Expr.rename, renameExprs_of_fixed items h]
  | .literal _ _, _ => rfl
  | .other _, _ => rfl

theorem renameExprs_of_fixed : ∀ es : List Expr, (∀ x ∈ namesOfExprs es, r x = x) → renameExprs r es = es
  | [], _ => rfl
  | e :: es, h => by
    rw [namesOfExprs, List.forall_mem_append] at h
    rw [renameExprs, Expr.rename_of_fixed e h.1, renameExprs_of_fixed es h.2]

end

theorem forall_mem_namesOfExprs {P : String → Prop} {es : List Expr} :
    (∀ x ∈ namesOfExprs es, P x) ↔ ∀ e ∈ es, ∀ x ∈ e.names, P x := by
  induction es with
  | nil => simp [namesOfExprs]
  | cons e es ih => rw [namesOfExprs, List.forall_mem_append, ih, List.forall_mem_cons]

theorem isBlock_rename (s : Stmt) : (s.rename r).isBlock = s.isBlock := by
  cases s <;> rfl

/-- Renaming and opening the blocks can be done in either order. -/
theorem flatten_renameBody (ss : List Stmt) : flatten (renameBody r ss) = (flatten ss).map (Stmt.rename r) := by
  induction ss using body_induction with
  | nil => rfl
  | block inner ss ih₁ ih₂ =>
    rw [renameBody, Stmt.rename, flatten_block_cons, ih₁, ih₂, flatten_block_cons, List.map_append]
  | leaf s ss hs ih =>
    rw [renameBody, flatten_leaf_cons ((isBlock_rename s).trans hs), ih, flatten_leaf_cons hs, List.map_cons]

/-! ## One statement -/

/-- `b'` gives the new name of every variable the state that `b` gives the old one. -/
def Renamed (r : String → String) (b b' : Bindings) : Prop := ∀ x, b'.state (r x) = b.state x

theorem renamed_empty : Renamed r .empty .empty := fun _ => rfl

variable {m : ModuleId} {b b' : Bindings}

theorem Renamed.refersToModule_eq (h : Renamed r b b') (e : Expr) :
    b'.refersToModule (e.rename r) = b.refersToModule e := by
  cases e with
  | name x => simp only [Expr.rename, Bindings.refersToModule, Bindings.isModule, h x]
  | call receiver => cases receiver <;> rfl
  | new | field | literal | array | other => rfl

theorem Renamed.isModuleValue_eq (h : Renamed r b b') (e : Expr) :
    isModuleValue m b' (e.rename r) = isModuleValue m b e := by
  cases e with
  | name x => exact h.refersToModule_eq (.name x)
  | call receiver => cases receiver <;> rfl
  | new | field | literal | array | other => rfl

theorem Renamed.declaredBinding_eq (h : Renamed r b b') (declaredType : Option String) (init : Option Expr) :
    declaredBinding m b' declaredType (init.map (Expr.rename r)) = declaredBinding m b declaredType init := by
  cases init with
  | none => rfl
  | some e =>
    cases e with
    | name x =>
      have hx : b'.refersToModule (.name (r x)) = b.refersToModule (.name x) := h.refersToModule_eq (.name x)
      simp only [Option.map_some, Expr.rename, declaredBinding, hx]
    | call receiver => cases receiver <;> rfl
    | new | field | literal | array | other => rfl

/-- A renamed statement writes the new name of what the statement writes. -/
theorem written?_rename (s : Stmt) : (s.rename r).written? = s.written?.map r := by
  cases s with
  | localDecl | expr | block | other => rfl
  | assign target value =>
    cases target with
    | call receiver => cases receiver <;> rfl
    | name | new | field | literal | array | other => rfl

theorem Renamed.writtenBinding_eq (h : Renamed r b b') (s : Stmt) :
    writtenBinding m b' (s.rename r) = writtenBinding m b s := by
  cases s with
  | localDecl x declaredType init => exact h.declaredBinding_eq declaredType init
  | assign target value => exact congrArg Binding.ofModule (h.isModuleValue_eq value)
  | expr | block | other => rfl

/-- **One statement.** Two runs that agree along an injective renaming still do after the statement and its renamed
form. -/
theorem Renamed.step (hr : Function.Injective r) (h : Renamed r b b') (s : Stmt) :
    Renamed r (bindStmt m b s) (bindStmt m b' (s.rename r)) := by
  intro x
  have hw : (s.rename r).written? = some (r x) ↔ s.written? = some x := by
    rw [written?_rename, Option.map_eq_some_iff]
    constructor
    · rintro ⟨y, hy, hyx⟩
      rw [hy, hr hyx]
    · exact fun hx => ⟨x, hx, rfl⟩
  rw [state_bindStmt, state_bindStmt, h.writtenBinding_eq s, h x]
  simp only [hw]

variable {propertyName : String → Option String}

/-- A setter yields a property iff it is called on the module with an argument. -/
theorem stmtProperty_setter (receiver : Expr) (method : String) (args : List Expr) :
    stmtProperty propertyName b (.expr (.call (some receiver) method args)) =
      if b.refersToModule receiver = true ∧ args ≠ [] then (propertyName method).map (⟨·, joinedSpelling args⟩)
      else none := by
  cases hr : b.refersToModule receiver with
  | false => simp [stmtProperty, hr]
  | true =>
    cases args with
    | nil => cases hn : propertyName method <;> simp [stmtProperty, hn]
    | cons e es =>
      cases es with
      | nil => cases hn : propertyName method <;> simp [stmtProperty, hr, hn, joinedSpelling, spellings, joinWith]
      | cons => cases hn : propertyName method <;> simp [stmtProperty, hr, hn]

/-- The value of a property is the spelling of what the statement hands over. -/
theorem value_of_stmtProperty {s : Stmt} {p : Property} (h : stmtProperty propertyName b s = some p) :
    p.value = joinedSpelling (s.propertyValues propertyName) := by
  obtain ⟨x, -, ⟨method, args, rfl, -, hn, hv⟩ | ⟨value, rfl, hv⟩⟩ := stmtProperty_eq_some_iff.1 h
  · rw [hv, Stmt.propertyValues, hn]; rfl
  · rw [hv]; rfl

/-- A renamed statement yields the property that the statement yields, with the renamed value. -/
theorem stmtProperty_rename (h : Renamed r b b') (s : Stmt) :
    stmtProperty propertyName b' (s.rename r) =
      (stmtProperty propertyName b s).map fun p =>
        { p with value := joinedSpelling (renameExprs r (s.propertyValues propertyName)) } := by
  cases s with
  | localDecl | block | other => rfl
  | assign target value =>
    cases target with
    | field receiver name =>
      simp only [Stmt.rename, Expr.rename, stmtProperty, h.refersToModule_eq receiver]
      cases b.refersToModule receiver <;> rfl
    | call receiver => cases receiver <;> rfl
    | name | new | literal | array | other => rfl
  | expr e =>
    cases e with
    | call receiver method args =>
      cases receiver with
      | none => rfl
      | some receiver =>
        have hnil : renameExprs r args = [] ↔ args = [] := by cases args <;> simp [renameExprs]
        rw [Stmt.rename, Expr.rename, stmtProperty_setter, stmtProperty_setter, h.refersToModule_eq receiver]
        simp only [ne_eq, hnil]
        split
        · cases hn : propertyName method <;> simp [Stmt.propertyValues, hn]
        · rfl
    | name | new | field | literal | array | other => rfl

/-- A statement that keeps the names in the values it hands over yields the very same property. -/
theorem stmtProperty_rename_of_fixed (h : Renamed r b b') {s : Stmt}
    (hfix : ∀ e ∈ s.propertyValues propertyName, ∀ x ∈ e.names, r x = x) :
    stmtProperty propertyName b' (s.rename r) = stmtProperty propertyName b s := by
  rw [stmtProperty_rename h, renameExprs_of_fixed _ (forall_mem_namesOfExprs.2 hfix)]
  cases hp : stmtProperty propertyName b s with
  | none => rfl
  | some p => rw [Option.map_some, ← value_of_stmtProperty hp]

/-! ## Whole runs -/

/-- **Two runs side by side.** What is read off a property may be anything (`f`) that no statement of the body changes
by being renamed. -/
theorem map_emitted_rename {β : Type} (f : Property → β) (hr : Function.Injective r) {ss : List Stmt}
    (hf : ∀ s ∈ ss, ∀ b b', Renamed r b b' →
      (stmtProperty propertyName b' (s.rename r)).map f = (stmtProperty propertyName b s).map f)
    (h : Renamed r b b') :
    (emitted propertyName m b' (ss.map (Stmt.rename r))).map f = (emitted propertyName m b ss).map f := by
  -- on the statements, for whatever bindings the two runs come with
  induction ss generalizing b b' with
  | nil => rfl
  | cons s ss ih =>
    have hs := h.step (m := m) hr s
    rw [List.map_cons, emitted_cons, emitted_cons, List.map_append, List.map_append,
      ih (fun t ht => hf t (List.mem_cons_of_mem s ht)) hs, ← Option.toList_map, ← Option.toList_map,
      hf s List.mem_cons_self _ _ hs]

/-- **Names of variables do not matter.** A test case whose names are replaced injectively sets the same properties,
and gives them the same values if no name in the arguments of a setter or in a value assigned to a field is changed. -/
theorem testCaseProperties_rename (propertyName : String → Option String) (m : ModuleId) (method : Method)
    {r : String → String} (hr : Function.Injective r) :
    (testCaseProperties propertyName m (method.rename r)).names =
      (testCaseProperties propertyName m method).names ∧
    ((∀ s ∈ flatten method.body, ∀ e ∈ s.propertyValues propertyName, ∀ x ∈ e.names, r x = x) →
      testCaseProperties propertyName m (method.rename r) = testCaseProperties propertyName m method) := by
  simp only [testCaseProperties_eq_emitted, Method.rename, flatten_renameBody]
  constructor
  · rw [PropertySet.names_ofList, PropertySet.names_ofList]
    congr 1
    refine map_emitted_rename Property.name hr (fun s _ b b' hb => ?_) renamed_empty
    rw [stmtProperty_rename hb, Option.map_map]
    rfl
  · intro hfix
    congr 1
    have hsame := map_emitted_rename (m := m) id hr
      (fun s (hs : s ∈ flatten method.body) b b' hb =>
        congrArg (Option.map id) (stmtProperty_rename_of_fixed hb (hfix s hs))) renamed_empty
    rwa [List.map_id, List.map_id] at hsame

/-- Swap two names. -/
def swapNames (x y z : String) : String := if z = x then y else if z = y then x else z

theorem swapNames_injective (x y : String) : Function.Injective (swapNames x y) := by
  intro z w h
  unfold swapNames at h
  grind

/-- A test case that sets a property to what a variable holds, on a copy of an instance. -/
def limitTest : Method :=
  ⟨"testLimit", ["Test"],
    [.localDecl "check" none (some (.new "FooCheck" [.name "limit"])),
     .block [.assign (.name "copy") (.name "check"), .expr (.call (some (.name "copy")) "setMax" [.name "limit"])]], 1⟩

/-- With `check` and `copy` swapped the test case still sets `max` to `limit`. -/
theorem testCaseProperties_limitTest_swapped :
    testCaseProperties (setterProperty "set") ⟨"FooCheck"⟩ (limitTest.rename (swapNames "check" "copy")) =
      testCaseProperties (setterProperty "set") ⟨"FooCheck"⟩ limitTest ∧
    ⟨"max", "limit"⟩ ∈ testCaseProperties (setterProperty "set") ⟨"FooCheck"⟩ limitTest := by
  refine ⟨(testCaseProperties_rename (setterProperty "set") ⟨"FooCheck"⟩ limitTest
    (swapNames_injective "check" "copy")).2 ?_, by decide⟩
  decide

end ConfigCoverage
