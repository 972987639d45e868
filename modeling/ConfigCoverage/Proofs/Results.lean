import ConfigCoverage.Analysis

/-!
# What the results of a file hold

* `ResultMap.sets_insert`: recording a test case adds its properties under its name and nothing else.
* `sets_collectResults`: under a name stand the properties of all test cases of that name.
* `mem_testCaseProperties`: the properties of a test case come from its statements, each under its snapshot.
* `processFile_of_named`: a file whose methods are all named has results.
* `Context.process_eq`: what a context answers to a file does not depend on the results that it holds.
-/

namespace ConfigCoverage

namespace ResultMap

/-- The property `p` stands under the name `test`. -/
def Sets (r : ResultMap) (test : String) (p : Property) : Prop := ∃ ps, r.get? test = some ps ∧ p ∈ ps

theorem not_sets_empty (test : String) (p : Property) : ¬ empty.Sets test p := by
  rintro ⟨ps, h, -⟩
  cases h

theorem get?_insert (r : ResultMap) (test t : String) (ps : PropertySet) :
    (r.insert test ps).get? t =
      if t = test then some ((r.get? test).elim ps fun old => old.union ps) else r.get? t := by
  unfold get? insert
  rw [SortedMap.get?_alter]
  cases r.tests.get? test <;> rfl

/-- Recording a test case adds its properties under its name. -/
theorem sets_insert {r : ResultMap} {test t : String} {ps : PropertySet} {p : Property} :
    (r.insert test ps).Sets t p ↔ r.Sets t p ∨ (t = test ∧ p ∈ ps) := by
  unfold Sets
  rw [get?_insert]
  by_cases ht : t = test
  · subst ht
    cases hr : r.get? t with
    | none => simp
    | some old => simp [SortedSet.mem_union]
  · simp [ht]

/-- A name is among those of all properties iff some test case sets a property of that name. -/
theorem mem_propertyNames {r : ResultMap} {name : String} :
    name ∈ r.propertyNames ↔ ∃ test p, r.Sets test p ∧ p.name = name := by
  unfold propertyNames Sets
  rw [SortedSet.mem_ofList, List.mem_flatMap]
  constructor
  · rintro ⟨⟨test, ps⟩, he, hn⟩
    obtain ⟨p, hp, rfl⟩ := List.mem_map.1 hn
    exact ⟨test, p, ⟨ps, SortedMap.mem_entries.1 he, hp⟩, rfl⟩
  · rintro ⟨test, p, ⟨ps, hg, hp⟩, rfl⟩
    exact ⟨(test, ps), SortedMap.mem_entries.2 hg, List.mem_map.2 ⟨p, hp, rfl⟩⟩

end ResultMap

/-! ## Test cases -/

/-- A statement gives a property its value on what `x` stands for: by a setter with its arguments, or by an assignment
to the field. -/
def Stmt.Sets (propertyName : String → Option String) (s : Stmt) (x : String) (p : Property) : Prop :=
  (∃ method args, s = .expr (.call (some (.name x)) method args) ∧ args ≠ [] ∧ propertyName method = some p.name ∧
    p.value = joinedSpelling args) ∨
  ∃ value, s = .assign (.field (.name x) p.name) value ∧ p.value = value.spelling

/-- A statement yields a property iff it sets it on a name that stands for the module. -/
theorem stmtProperty_eq_some_iff {propertyName : String → Option String} {b : Bindings} {s : Stmt} {p : Property} :
    stmtProperty propertyName b s = some p ↔ ∃ x, b.state x = .module ∧ s.Sets propertyName x p := by
  constructor
  · fun_cases stmtProperty propertyName b s with
    | case1 | case2 | case5 | case7 | case8 => intro h; cases h
    | case3 receiver method hr name value hn =>
      intro h
      cases h
      obtain ⟨x, rfl, hx⟩ := Bindings.refersToModule_eq_true_iff.1 hr
      exact ⟨x, hx, .inl ⟨method, [value], rfl, by simp, hn, rfl⟩⟩
    | case4 receiver method hr name values hne _ hn =>
      intro h
      cases h
      obtain ⟨x, rfl, hx⟩ := Bindings.refersToModule_eq_true_iff.1 hr
      exact ⟨x, hx, .inl ⟨method, values, rfl, hne, hn, rfl⟩⟩
    | case6 receiver name value hr =>
      intro h
      cases h
      obtain ⟨x, rfl, hx⟩ := Bindings.refersToModule_eq_true_iff.1 hr
      exact ⟨x, hx, .inr ⟨value, rfl, rfl⟩⟩
  · obtain ⟨name, value⟩ := p
    rintro ⟨x, hx, ⟨method, args, rfl, hne, hn, rfl⟩ | ⟨e, rfl, rfl⟩⟩
    · have hr : b.refersToModule (.name x) = true := Bindings.refersToModule_eq_true_iff.2 ⟨x, rfl, hx⟩
      match args, hne with
      | [_], _ => simp only [stmtProperty, hr, hn]; rfl
      | _ :: _ :: _, _ => simp only [stmtProperty, hr, hn]; rfl
    · have hr : b.refersToModule (.name x) = true := Bindings.refersToModule_eq_true_iff.2 ⟨x, rfl, hx⟩
      simp only [stmtProperty, hr]; rfl

/-- What is extracted comes from the statements, each under the bindings at its place. -/
theorem mem_extract {propertyName : String → Option String} {body : List Stmt} {bindings : List Bindings}
    {p : Property} :
    p ∈ extract propertyName body bindings ↔
      ∃ (i : Nat) (s : Stmt) (b : Bindings), body[i]? = some s ∧ bindings[i]? = some b ∧
        stmtProperty propertyName b s = some p := by
  unfold extract
  rw [SortedSet.mem_ofList, List.mem_filterMap]
  constructor
  · rintro ⟨⟨s, b⟩, hz, hp⟩
    obtain ⟨i, hi⟩ := List.mem_iff_getElem?.1 hz
    obtain ⟨hs, hb⟩ := List.getElem?_zip_eq_some.1 hi
    exact ⟨i, s, b, hs, hb, hp⟩
  · rintro ⟨i, s, b, hs, hb, hp⟩
    exact ⟨(s, b), List.mem_iff_getElem?.2 ⟨i, List.getElem?_zip_eq_some.2 ⟨hs, hb⟩⟩, hp⟩

/-- The properties of a test case come from its statements, each under its snapshot. -/
theorem mem_testCaseProperties {propertyName : String → Option String} {m : ModuleId} {method : Method}
    {p : Property} :
    p ∈ testCaseProperties propertyName m method ↔
      ∃ (i : Nat) (s : Stmt) (b : Bindings), (flatten method.body)[i]? = some s ∧
        (track m (flatten method.body))[i]? = some b ∧ stmtProperty propertyName b s = some p :=
  mem_extract

variable {rules : Rules} {m : ModuleId}

/-- Recording test cases one after another, on top of what is there. -/
theorem sets_foldl_insert {α : Type} {name : α → String} {f : α → PropertySet} {xs : List α} {r : ResultMap}
    {test : String} {p : Property} :
    (xs.foldl (fun r x => r.insert (name x) (f x)) r).Sets test p ↔
      r.Sets test p ∨ ∃ x ∈ xs, name x = test ∧ p ∈ f x := by
  induction xs generalizing r with
  | nil => simp
  | cons x xs ih =>
    rw [List.foldl_cons, ih, ResultMap.sets_insert, or_assoc]
    simp only [List.mem_cons, exists_eq_or_imp, eq_comm (a := test)]

/-- Under a name stand the properties of all test cases of that name. -/
theorem sets_collectResults {methods : List Method} {test : String} {p : Property} :
    (collectResults rules m methods).Sets test p ↔
      ∃ method ∈ methods, rules.isTestCase method = true ∧ method.name = test ∧
        p ∈ testCaseProperties rules.propertyName m method := by
  unfold collectResults
  rw [sets_foldl_insert]
  constructor
  · rintro (h | ⟨method, hm, hn, hp⟩)
    · exact absurd h (ResultMap.not_sets_empty test p)
    · obtain ⟨hm, ht⟩ := List.mem_filter.1 hm
      exact ⟨method, hm, ht, hn, hp⟩
  · rintro ⟨method, hm, ht, hn, hp⟩
    exact .inr ⟨method, List.mem_filter.2 ⟨hm, ht⟩, hn, hp⟩

/-- A file whose methods are all named has results. -/
theorem processFile_of_named {file : SourceFile} (h : ∀ method ∈ file.methods, trimmed method.name ≠ "") :
    processFile rules (some m) file = .ok (collectResults rules m file.methods) := by
  have hn : namelessMethod? file = none := by
    unfold namelessMethod?
    rw [List.find?_eq_none]
    intro method hm
    simpa using h method hm
  simp only [processFile, hn]

/-- The results that an answer leaves: none after a failure. -/
def ResultMap.ofAnswer : Except Failure ResultMap → ResultMap
  | .ok r => r
  | .error _ => .empty

/-- A context answers to a file by its rules and its module, and holds what the answer leaves. -/
theorem Context.process_eq (c : Context) (file : SourceFile) :
    c.process file =
      ({ c with results := .ofAnswer (processFile c.rules c.module file) }, processFile c.rules c.module file) := by
  cases h : processFile c.rules c.module file with
  | error e => simp only [process, reset, h, ResultMap.ofAnswer]
  | ok r => simp only [process, reset, h, ResultMap.ofAnswer]

end ConfigCoverage
