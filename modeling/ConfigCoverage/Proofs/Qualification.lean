import ConfigCoverage.Proofs.History
import ConfigCoverage.Proofs.TypeNames
import ConfigCoverage.Proofs.Walk

/-!
# Qualified names

Types are compared by their simple names alone. So it makes no difference whether the module under test is given with a
qualifier or without, nor whether the types of variables are declared with one.

* `processFile_of_simpleName`: an analysis asks for the simple name of its module only.
* `Requalified.walk_eq`: qualifiers before declared types change no step of the walk over a body.
* `processStandard_qualified`: both for the analysis of a file.
-/

namespace ConfigCoverage

/-! ## The module -/

section Module

variable {m m' : ModuleId}

theorem ModuleId.matchesType_of_simpleName (h : m'.simpleName = m.simpleName) : m'.matchesType = m.matchesType := by
  funext t
  rw [matchesType, h, matchesType]

theorem bindStmt_of_simpleName (h : m'.simpleName = m.simpleName) (b : Bindings) (s : Stmt) :
    bindStmt m' b s = bindStmt m b s := by
  have hmatches := ModuleId.matchesType_of_simpleName h
  have hvalue : isModuleValue m' b = isModuleValue m b := by
    funext e
    cases e <;> simp only [isModuleValue, hmatches]
  have hdeclared : declaredBinding m' b = declaredBinding m b := by
    funext t init
    cases init with
    | none => rfl
    | some e => cases e <;> simp only [declaredBinding, hmatches]
  cases s with
  | localDecl => rw [bindStmt, hdeclared, bindStmt]
  | assign target value => cases target <;> simp only [bindStmt, hvalue]
  | expr | block | other => rfl

theorem trackFrom_of_simpleName (h : m'.simpleName = m.simpleName) (b : Bindings) (ss : List Stmt) :
    trackFrom m' b ss = trackFrom m b ss := by
  induction ss generalizing b with
  | nil => rfl
  | cons s ss ih => rw [trackFrom, trackFrom, bindStmt_of_simpleName h, ih]

/-- An analysis asks for the simple name of its module only. -/
theorem processFile_of_simpleName (h : m'.simpleName = m.simpleName) (rules : Rules) (file : SourceFile) :
    processFile rules (some m') file = processFile rules (some m) file := by
  have hproperties : ∀ method : Method,
      testCaseProperties rules.propertyName m' method = testCaseProperties rules.propertyName m method := by
    intro method
    simp only [testCaseProperties, track, trackFrom_of_simpleName h]
  simp only [processFile, collectResults, hproperties]

end Module

/-! ## Declared types -/

/-- Two bodies differ in qualifiers before the declared types of variables, at any depth. -/
inductive Requalified : List Stmt → List Stmt → Prop
  | nil : Requalified [] []
  | declaration {ss ss' : List Stmt} (name q t : String) (init : Option Expr) : '<' ∉ q.toList → Requalified ss ss' →
    Requalified (.localDecl name (some t) init :: ss) (.localDecl name (some (q ++ "." ++ t)) init :: ss')
  | block {inner inner' ss ss' : List Stmt} : Requalified inner inner' → Requalified ss ss' →
    Requalified (.block inner :: ss) (.block inner' :: ss')
  | same {ss ss' : List Stmt} (s : Stmt) : Requalified ss ss' → Requalified (s :: ss) (s :: ss')

/-- Two methods differ in such qualifiers alone. -/
structure Method.Requalified (a b : Method) : Prop where
  name : b.name = a.name
  markers : b.markers = a.markers
  line : b.line = a.line
  body : ConfigCoverage.Requalified a.body b.body

/-- Methods differ so one by one. -/
inductive MethodsRequalified : List Method → List Method → Prop
  | nil : MethodsRequalified [] []
  | cons {a b : Method} {as bs : List Method} : a.Requalified b → MethodsRequalified as bs →
    MethodsRequalified (a :: as) (b :: bs)

theorem bindStmt_requalified (m : ModuleId) (b : Bindings) {q : String} (h : '<' ∉ q.toList) (name t : String)
    (init : Option Expr) :
    bindStmt m b (.localDecl name (some (q ++ "." ++ t)) init) = bindStmt m b (.localDecl name (some t) init) := by
  have hmatches : m.matchesType (q ++ "." ++ t) = m.matchesType t := by
    rw [ModuleId.matchesType, simpleTypeName_qualified h, ModuleId.matchesType]
  cases init with
  | none => rfl
  | some e => cases e <;> simp only [bindStmt, declaredBinding, Option.any_some, hmatches]

variable {propertyName : String → Option String} {m : ModuleId}

/-- Every step of the walk finds and leaves the same bindings. -/
theorem Requalified.walk_eq {ss ss' : List Stmt} (h : Requalified ss ss') (b : Bindings) :
    walk propertyName m b ss' = walk propertyName m b ss := by
  induction h generalizing b with
  | nil => rfl
  | declaration name q t init hq _ ih =>
    rw [walk, walkStmt_leaf b rfl, bindStmt_requalified m b hq, ih, walk, walkStmt_leaf b rfl]
    rfl
  | block _ _ ih₁ ih₂ => rw [walk, walkStmt, ih₁, ih₂, walk, walkStmt]
  | same s _ ih => rw [walk, ih, walk]

theorem Method.Requalified.testCaseProperties_eq {a b : Method} (h : a.Requalified b) :
    testCaseProperties propertyName m b = testCaseProperties propertyName m a := by
  have hwalk : walk propertyName m .empty b.body = walk propertyName m .empty a.body := h.body.walk_eq .empty
  rw [ConfigCoverage.walk_eq, ConfigCoverage.walk_eq, Prod.mk.injEq] at hwalk
  rw [testCaseProperties_eq_emitted, testCaseProperties_eq_emitted, hwalk.2]

namespace MethodsRequalified

variable {as bs : List Method}

theorem collectResults_eq (h : MethodsRequalified as bs) (rule : TestCaseRule) :
    collectResults ⟨rule.accepts, propertyName⟩ m bs = collectResults ⟨rule.accepts, propertyName⟩ m as := by
  unfold collectResults
  generalize ResultMap.empty = r
  induction h generalizing r with
  | nil => rfl
  | @cons a b as bs hab _ ih =>
    have haccepts : rule.accepts b = rule.accepts a := by simp only [TestCaseRule.accepts, hab.name, hab.markers]
    simp only [List.filter_cons, haccepts]
    split
    · rw [List.foldl_cons, List.foldl_cons, hab.name, hab.testCaseProperties_eq, ih]
    · exact ih r

/-- The first method with a blank name stands in the same line. -/
theorem map_line_find? (h : MethodsRequalified as bs) :
    (bs.find? fun method => trimmed method.name == "").map Method.line =
      (as.find? fun method => trimmed method.name == "").map Method.line := by
  induction h with
  | nil => rfl
  | @cons a b as bs hab _ ih =>
    simp only [List.find?_cons, hab.name]
    cases trimmed a.name == "" with
    | true => exact congrArg some hab.line
    | false => exact ih

theorem processFile_eq (h : MethodsRequalified as bs) (rule : TestCaseRule) (file : String) :
    processFile ⟨rule.accepts, propertyName⟩ (some m) ⟨file, bs⟩ =
      processFile ⟨rule.accepts, propertyName⟩ (some m) ⟨file, as⟩ := by
  have hline : (namelessMethod? ⟨file, bs⟩).map Method.line = (namelessMethod? ⟨file, as⟩).map Method.line :=
    h.map_line_find?
  cases has : namelessMethod? ⟨file, as⟩ with
  | none =>
    rw [has, Option.map_none, Option.map_eq_none_iff] at hline
    simp only [processFile, has, hline, h.collectResults_eq rule]
  | some a =>
    rw [has, Option.map_some, Option.map_eq_some_iff] at hline
    obtain ⟨b, hbs, hb⟩ := hline
    simp only [processFile, has, hbs, hb]

end MethodsRequalified

/-- **Qualifiers do not matter.** A file is analysed for the module `q.s` as it is for the module `s`, where `q` is any
text without `<` and `s` any text at all. And whatever the module, the analysis does not change if such qualifiers are
put before the declared types of variables, anywhere in the file. -/
theorem processStandard_qualified :
    (∀ (q s : String) (file : SourceFile), '<' ∉ q.toList →
      processStandard file (q ++ "." ++ s) = processStandard file s) ∧
    ∀ (name : String) (as bs : List Method) (module : String), MethodsRequalified as bs →
      processStandard ⟨name, bs⟩ module = processStandard ⟨name, as⟩ module := by
  constructor
  · intro q s file hq
    rw [Context.processStandard_eq, Context.processStandard_eq]
    exact processFile_of_simpleName (simpleTypeName_qualified hq s) .standard file
  · intro name as bs module h
    rw [Context.processStandard_eq, Context.processStandard_eq]
    exact h.processFile_eq .standard name

/-- A test case that declares a variable of the given type in a block and sets a property on it. -/
def declaringTest (type : String) : Method :=
  ⟨"testMax", ["Test"],
    [.block [.localDecl "check" (some type) (some (.call none "make" [])), .block []],
     .expr (.call (some (.name "check")) "setMax" [.literal .number "1"])], 1⟩

theorem requalified_declaringTest {q : String} (hq : '<' ∉ q.toList) (type : String) :
    (declaringTest type).Requalified (declaringTest (q ++ "." ++ type)) :=
  ⟨rfl, rfl, rfl, .block (.declaration "check" q type _ hq (.same _ .nil)) (.same _ .nil)⟩

/-- The module and the type are each written with a qualifier that has brackets and blanks of its own, before a name with
blanks and arguments; the property is still found. -/
theorem processStandard_qualified_declaringTest :
    processStandard ⟨"T", [declaringTest ("a.[] " ++ "." ++ " FooCheck<T> ")]⟩ ("> []" ++ "." ++ "\tFooCheck []") =
        processStandard ⟨"T", [declaringTest " FooCheck<T> "]⟩ "\tFooCheck []" ∧
      ((processStandard ⟨"T", [declaringTest " FooCheck<T> "]⟩ "\tFooCheck []").toOption.bind fun r =>
        (r.get? "testMax").map SortedSet.toList) = some [⟨"max", "1"⟩] := by
  refine ⟨?_, by decide +kernel⟩
  obtain ⟨hmodule, htype⟩ := processStandard_qualified
  rw [hmodule "> []" _ _ (by decide)]
  exact htype "T" [declaringTest " FooCheck<T> "] _ _ (.cons (requalified_declaringTest (by decide) _) .nil)

end ConfigCoverage
