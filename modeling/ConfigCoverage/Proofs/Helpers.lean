import ConfigCoverage.Proofs.Alias
import ConfigCoverage.Proofs.Results
import ConfigCoverage.Proofs.Walk

/-!
# Helper objects

A name that never stands for the module can be taken out of a test case, with all that is written to it and called on
it, even where other names are copied from it: only which names stand for the module is ever asked.

* `ModulesWithin.step`: of two bindings, the one with more names of the module still has more after a statement.
* `SameModules.step`, `SameModules.skip`: bindings with the same names of the module still have the same after a
  statement that both runs take, and after one about the helper that only one run takes.
* `emitted_filter`: the run without the helper emits what the whole run emits.
* `testCaseProperties_without`: the properties of a test case without a helper.
-/

namespace ConfigCoverage

/-! ## Test cases without a name -/

/-- A statement is about `y`: it writes `y`, calls a method on `y` or assigns to a field of `y`. -/
def Stmt.isAbout (y : String) : Stmt → Bool
  | .localDecl x _ _ => x == y
  | .assign (.name x) _ => x == y
  | .assign (.field (.name x) _) _ => x == y
  | .expr (.call (some (.name x)) _ _) => x == y
  | _ => false

section Definitions

variable (y : String)

mutual

/-- What is left of a statement without those about `y`: nothing, or the statement with its blocks thinned out. -/
def Stmt.without : Stmt → List Stmt
  | .block body => [.block (bodyWithout body)]
  | s => if s.isAbout y then [] else [s]

/-- A body without the statements about `y`, at every depth. -/
def bodyWithout : List Stmt → List Stmt
  | [] => []
  | s :: ss => s.without ++ bodyWithout ss

end

/-- A method without the statements about `y`. -/
def Method.without (method : Method) : Method := { method with body := bodyWithout y method.body }

end Definitions

variable {y : String}

theorem without_leaf {s : Stmt} (hs : s.isBlock = false) : s.without y = if s.isAbout y then [] else [s] := by
  cases s with
  | block => cases hs
  | localDecl | assign | expr | other => rfl

/-- The flat body loses the statements about `y` and nothing else. -/
theorem flatten_bodyWithout (ss : List Stmt) :
    flatten (bodyWithout y ss) = (flatten ss).filter fun s => !s.isAbout y := by
  induction ss using body_induction with
  | nil => rfl
  | block inner ss ih₁ ih₂ =>
    rw [bodyWithout, Stmt.without, List.singleton_append, flatten_block_cons, ih₁, ih₂, flatten_block_cons,
      List.filter_append]
  | leaf s ss hs ih =>
    rw [bodyWithout, without_leaf hs, flatten_leaf_cons hs]
    cases ha : s.isAbout y with
    | true => rw [if_pos rfl, List.nil_append, ih, List.filter_cons_of_neg (by simp [ha])]
    | false =>
      rw [if_neg (by simp), List.singleton_append, flatten_leaf_cons hs, ih, List.filter_cons_of_pos (by simp [ha])]

/-! ## One statement -/

/-- Every name that stands for the module in `b'` does so in `b`. What else a name stands for may differ. -/
def ModulesWithin (b' b : Bindings) : Prop := ∀ x, b'.state x = .module → b.state x = .module

/-- The same names stand for the module. What else a name stands for may differ. -/
def SameModules (b b' : Bindings) : Prop := ∀ x, b'.state x = .module ↔ b.state x = .module

theorem SameModules.refl (b : Bindings) : SameModules b b := fun _ => Iff.rfl

variable {propertyName : String → Option String} {m : ModuleId} {b b' : Bindings} {s : Stmt}

theorem SameModules.within (h : SameModules b b') : ModulesWithin b' b ∧ ModulesWithin b b' :=
  ⟨fun x => (h x).1, fun x => (h x).2⟩

/-- What a statement makes of its name is read off the names of the module alone, and it makes no less of more names. -/
theorem ModulesWithin.step (h : ModulesWithin b' b) (s : Stmt) :
    ModulesWithin (bindStmt m b' s) (bindStmt m b s) := by
  intro x
  rw [state_bindStmt, state_bindStmt]
  by_cases hw : s.written? = some x
  · rw [if_pos hw, if_pos hw, writtenBinding_eq_module_iff hw, writtenBinding_eq_module_iff hw]
    rintro (hmade | ⟨y, hy, hcopied⟩)
    · exact .inl hmade
    · exact .inr ⟨y, hy, h y hcopied⟩
  · rw [if_neg hw, if_neg hw]
    exact h x

theorem ModulesWithin.stmtProperty_eq_some (h : ModulesWithin b' b) {p : Property}
    (hp : stmtProperty propertyName b' s = some p) : stmtProperty propertyName b s = some p := by
  obtain ⟨x, hx, hs⟩ := stmtProperty_eq_some_iff.1 hp
  exact stmtProperty_eq_some_iff.2 ⟨x, h x hx, hs⟩

theorem SameModules.step (h : SameModules b b') (s : Stmt) : SameModules (bindStmt m b s) (bindStmt m b' s) :=
  fun x => ⟨h.within.1.step s x, h.within.2.step s x⟩

theorem SameModules.stmtProperty_eq (h : SameModules b b') (s : Stmt) :
    stmtProperty propertyName b' s = stmtProperty propertyName b s :=
  Option.ext fun _ => ⟨h.within.1.stmtProperty_eq_some, h.within.2.stmtProperty_eq_some⟩

/-- A statement about `y` writes no other name. -/
theorem eq_of_isAbout_of_written (ha : s.isAbout y = true) {x : String} (hw : s.written? = some x) : x = y := by
  fun_cases Stmt.written? s with
  | case1 name declaredType init =>
    cases hw
    simpa [Stmt.isAbout] using ha
  | case2 name value =>
    cases hw
    simpa [Stmt.isAbout] using ha
  | case3 h₁ h₂ => simp [Stmt.written?, *] at hw

/-- A run may leave out a statement about a name that does not stand for the module, before it or after it. -/
theorem SameModules.skip (h : SameModules b b') (ha : s.isAbout y = true) (hb : b.state y ≠ .module)
    (hs : (bindStmt m b s).state y ≠ .module) : SameModules (bindStmt m b s) b' := by
  intro x
  -- the states of `y` itself may drift apart, but neither is the module
  by_cases hx : x = y
  · subst hx
    exact iff_of_false (fun hx => hb ((h x).1 hx)) hs
  · rw [state_bindStmt, if_neg fun hw => hx (eq_of_isAbout_of_written ha hw)]
    exact h x

/-- A statement about a name that does not stand for the module yields nothing. -/
theorem stmtProperty_of_isAbout (ha : s.isAbout y = true) (hb : b.state y ≠ .module) :
    stmtProperty propertyName b s = none := by
  refine Option.eq_none_iff_forall_ne_some.2 fun p hp => ?_
  obtain ⟨x, hx, hs⟩ := stmtProperty_eq_some_iff.1 hp
  have hxy : x = y := by
    rcases hs with ⟨method, args, rfl, -⟩ | ⟨value, rfl, -⟩
    · simpa [Stmt.isAbout] using ha
    · simpa [Stmt.isAbout] using ha
  rw [hxy] at hx
  exact hb hx

/-! ## Whole runs -/

/-- **A run without a helper** emits what the whole run emits, if the helper stands for the module neither at the start
nor after any statement. -/
theorem emitted_filter {ss : List Stmt} (h : SameModules b b') (hb : b.state y ≠ .module)
    (hy : ∀ b₁ ∈ trackFrom m b ss, b₁.state y ≠ .module) :
    emitted propertyName m b' (ss.filter fun s => !s.isAbout y) = emitted propertyName m b ss := by
  induction ss generalizing b b' with
  | nil => rfl
  | cons s ss ih =>
    rw [trackFrom, List.forall_mem_cons] at hy
    obtain ⟨hs, hss⟩ := hy
    cases ha : s.isAbout y with
    | true =>
      -- only the whole run takes this statement
      rw [List.filter_cons_of_neg (by simp [ha]), emitted_cons, stmtProperty_of_isAbout ha hs,
        ih (h.skip ha hb hs) hs hss]
      rfl
    | false =>
      have hsame := h.step (m := m) s
      rw [List.filter_cons_of_pos (by simp [ha]), emitted_cons, emitted_cons, hsame.stmtProperty_eq, ih hsame hs hss]

/-- **Helper objects do not interfere.** Without the statements about a name that stands for the module in no snapshot,
a test case sets the same properties to the same values. -/
theorem testCaseProperties_without (propertyName : String → Option String) (m : ModuleId) (method : Method)
    (y : String) (helper : ∀ b ∈ track m (flatten method.body), b.state y ≠ .module) :
    testCaseProperties propertyName m (method.without y) = testCaseProperties propertyName m method := by
  have hempty : Bindings.empty.state y ≠ .module := by
    intro h
    cases h
  rw [testCaseProperties_eq_emitted, testCaseProperties_eq_emitted, Method.without, flatten_bodyWithout,
    emitted_filter (SameModules.refl .empty) hempty helper]

/-- A test case that configures an object of its own besides the module, and copies its name over that of an instance.
-/
def helperTest : Method :=
  ⟨"testHelper", ["Test"],
    [.localDecl "check" none (some (.new "FooCheck" [])),
     .localDecl "config" (some "Config") (some (.new "Config" [])),
     .block [.expr (.call (some (.name "config")) "setMax" [.literal .number "9"]),
       .expr (.call (some (.name "check")) "setMax" [.literal .number "1"]),
       .assign (.name "check") (.name "config")],
     .assign (.field (.name "check") "min") (.literal .number "2")], 1⟩

/-- Without `config` the test case still sets `max` to `1` and nothing else. -/
theorem testCaseProperties_helperTest_without :
    testCaseProperties (setterProperty "set") ⟨"FooCheck"⟩ (helperTest.without "config") =
      testCaseProperties (setterProperty "set") ⟨"FooCheck"⟩ helperTest ∧
    (testCaseProperties (setterProperty "set") ⟨"FooCheck"⟩ helperTest).toList = [⟨"max", "1"⟩] ∧
    (flatten (helperTest.without "config").body).length = 4 :=
  ⟨testCaseProperties_without (setterProperty "set") ⟨"FooCheck"⟩ helperTest "config" (by decide), by decide, by decide⟩

end ConfigCoverage
