import ConfigCoverage.Proofs.Results

/-!
# The exact contents of the results

The results of a file are determined by which methods it has: neither their order nor a method of another name shows
under the name of a test case.

* `processFile_eq_error_iff`, `processFile_eq_ok_iff`: when an analysis fails and how, and what it answers else.
* `contains_collectResults`: the names with an entry are those of the test cases, whether or not they set a property.
* `get?_collectResults_congr`: what stands under a name depends on the methods of that name alone.
* `Context.process_contents`: all of it for the answer of a context.
-/

namespace ConfigCoverage

/-! ## Failures -/

/-- `method` is the first of `methods` whose name is blank. -/
def FirstNameless (methods : List Method) (method : Method) : Prop :=
  trimmed method.name = "" ∧
    ∃ earlier later, methods = earlier ++ method :: later ∧ ∀ other ∈ earlier, trimmed other.name ≠ ""

theorem namelessMethod?_eq_some_iff {file : SourceFile} {method : Method} :
    namelessMethod? file = some method ↔ FirstNameless file.methods method := by
  simp [namelessMethod?, FirstNameless, List.find?_eq_some_iff_append]

theorem namelessMethod?_eq_none_iff {file : SourceFile} :
    namelessMethod? file = none ↔ ∀ method ∈ file.methods, trimmed method.name ≠ "" := by
  simp [namelessMethod?]

variable {rules : Rules} {m : ModuleId}

/-- An analysis fails for want of a module, and only then for the first blank name. -/
theorem processFile_eq_error_iff {module : Option ModuleId} {file : SourceFile} {e : Failure} :
    processFile rules module file = .error e ↔
      (module = none ∧ e = .noModule) ∨
      (module ≠ none ∧ ∃ method, FirstNameless file.methods method ∧ e = .namelessMethod file.name method.line) := by
  cases module with
  | none => simp [processFile, eq_comm]
  | some m =>
    simp only [← namelessMethod?_eq_some_iff]
    cases hn : namelessMethod? file with
    | none => simp [processFile, hn]
    | some method => simp [processFile, hn, eq_comm]

/-- An analysis with a module whose methods are all named answers the results of its test cases, and no other has an
answer. -/
theorem processFile_eq_ok_iff {module : Option ModuleId} {file : SourceFile} {r : ResultMap} :
    processFile rules module file = .ok r ↔
      ∃ m, module = some m ∧ (∀ method ∈ file.methods, trimmed method.name ≠ "") ∧
        collectResults rules m file.methods = r := by
  cases module with
  | none => simp [processFile]
  | some m =>
    rw [← namelessMethod?_eq_none_iff]
    cases hn : namelessMethod? file with
    | none => simp [processFile, hn]
    | some method => simp [processFile, hn]

/-! ## Entries -/

namespace ResultMap

theorem contains_iff_get? {r : ResultMap} {test : String} :
    r.contains test = true ↔ ∃ ps, r.get? test = some ps := Option.isSome_iff_exists

/-- Recording a test case makes an entry of its name, even without properties. -/
theorem contains_insert {r : ResultMap} {test t : String} {ps : PropertySet} :
    (r.insert test ps).contains t = true ↔ r.contains t = true ∨ t = test := by
  rw [contains_iff_get?, contains_iff_get?, get?_insert]
  by_cases ht : t = test
  · simp [ht]
  · simp [ht]

/-- The entry of a name is given by its presence and by the properties in it. -/
theorem get?_eq_of_sets {r r' : ResultMap} {test : String} (hk : r.contains test = true ↔ r'.contains test = true)
    (hs : ∀ p, r.Sets test p ↔ r'.Sets test p) : r.get? test = r'.get? test := by
  rw [contains_iff_get?, contains_iff_get?] at hk
  unfold Sets at hs
  cases h : r.get? test with
  | none =>
    cases h' : r'.get? test with
    | none => rfl
    | some ps' => rw [h] at hk; obtain ⟨ps, hps⟩ := hk.2 ⟨ps', h'⟩; cases hps
  | some ps =>
    obtain ⟨ps', h'⟩ := hk.1 ⟨ps, h⟩
    rw [h']
    congr 1
    refine SortedSet.ext_mem fun p => ?_
    simpa [h, h'] using hs p

theorem ext_get? {r r' : ResultMap} (h : ∀ test, r.get? test = r'.get? test) : r = r' := by
  cases r
  cases r'
  congr 1
  exact SortedMap.ext_get? h

end ResultMap

theorem contains_foldl_insert {α : Type} {name : α → String} {f : α → PropertySet} {xs : List α} {r : ResultMap}
    {test : String} :
    (xs.foldl (fun r x => r.insert (name x) (f x)) r).contains test = true ↔
      r.contains test = true ∨ ∃ x ∈ xs, name x = test := by
  induction xs generalizing r with
  | nil => simp
  | cons x xs ih =>
    rw [List.foldl_cons, ih, ResultMap.contains_insert, or_assoc]
    simp only [List.mem_cons, exists_eq_or_imp, eq_comm (a := test)]

/-- The names with an entry are those of the test cases. -/
theorem contains_collectResults {methods : List Method} {test : String} :
    (collectResults rules m methods).contains test = true ↔
      ∃ method ∈ methods, rules.isTestCase method = true ∧ method.name = test := by
  have hempty : ResultMap.empty.contains test = false := rfl
  unfold collectResults
  rw [contains_foldl_insert, hempty]
  simp [and_assoc]

/-- The entry of a name holds the properties of all test cases of that name. -/
theorem mem_of_get?_collectResults {methods : List Method} {test : String} {ps : PropertySet} {p : Property}
    (h : (collectResults rules m methods).get? test = some ps) :
    p ∈ ps ↔ ∃ method ∈ methods, rules.isTestCase method = true ∧ method.name = test ∧
      p ∈ testCaseProperties rules.propertyName m method := by
  rw [← sets_collectResults]
  constructor
  · exact fun hp => ⟨ps, h, hp⟩
  · rintro ⟨ps', h', hp⟩
    rw [Option.some.inj (h.symm.trans h')]
    exact hp

/-- What stands under a name depends on the methods of that name alone. -/
theorem get?_collectResults_congr {methods methods' : List Method} {test : String}
    (h : ∀ method, method.name = test → (method ∈ methods ↔ method ∈ methods')) :
    (collectResults rules m methods).get? test = (collectResults rules m methods').get? test := by
  refine ResultMap.get?_eq_of_sets ?_ fun p => ?_
  · rw [contains_collectResults, contains_collectResults]
    exact exists_congr fun method => and_congr_left fun ⟨_, hn⟩ => h method hn
  · rw [sets_collectResults, sets_collectResults]
    exact exists_congr fun method => and_congr_left fun ⟨_, hn, _⟩ => h method hn

/-- The order of the methods does not show in the results. -/
theorem collectResults_perm {methods methods' : List Method} (h : methods'.Perm methods) :
    collectResults rules m methods' = collectResults rules m methods :=
  ResultMap.ext_get? fun _ => get?_collectResults_congr fun _ _ => h.mem_iff

theorem processFile_eq_ok_iff_of_perm {module : Option ModuleId} {file : SourceFile} {methods : List Method}
    (h : methods.Perm file.methods) {r : ResultMap} :
    processFile rules module { file with methods } = .ok r ↔ processFile rules module file = .ok r := by
  simp only [processFile_eq_ok_iff, collectResults_perm h, h.mem_iff]

/-! ## The answer of a context -/

/-- **What an analysis answers.** It succeeds iff there is a module and every method is named; it fails for want of a
module first, and else for the first blank name. The results have an entry for each name of a test case, and in it the
properties of all test cases of that name. The order of the methods does not show, nor does a method of another name. -/
theorem Context.process_contents (c : Context) (file : SourceFile) :
    ((∃ r, (c.process file).2 = .ok r) ↔
      c.module ≠ none ∧ ∀ method ∈ file.methods, trimmed method.name ≠ "") ∧
    (∀ e, (c.process file).2 = .error e ↔
      (c.module = none ∧ e = .noModule) ∨
      (c.module ≠ none ∧ ∃ method, FirstNameless file.methods method ∧ e = .namelessMethod file.name method.line)) ∧
    (∀ e, (c.process file).2 = .error e → e.kind = if c.module = none then .configuration else .malformedInput) ∧
    (∀ m r, c.module = some m → (c.process file).2 = .ok r → ∀ test,
      (r.contains test = true ↔
        ∃ method ∈ file.methods, c.rules.isTestCase method = true ∧ method.name = test) ∧
      ∀ ps, r.get? test = some ps → ∀ p, p ∈ ps ↔
        ∃ method ∈ file.methods, c.rules.isTestCase method = true ∧ method.name = test ∧
          p ∈ testCaseProperties c.rules.propertyName m method) ∧
    (∀ methods, methods.Perm file.methods → ∀ r,
      (c.process { file with methods }).2 = .ok r ↔ (c.process file).2 = .ok r) ∧
    (∀ test file' r r', (∀ method, method.name = test → (method ∈ file.methods ↔ method ∈ file'.methods)) →
      (c.process file).2 = .ok r → (c.process file').2 = .ok r' → r.get? test = r'.get? test) := by
  simp only [process_eq]
  refine ⟨?_, fun e => processFile_eq_error_iff, ?_, ?_, fun methods h r => processFile_eq_ok_iff_of_perm h, ?_⟩
  · simp only [processFile_eq_ok_iff, Option.ne_none_iff_exists']
    constructor
    · rintro ⟨r, m, hm, hn, -⟩
      exact ⟨⟨m, hm⟩, hn⟩
    · rintro ⟨⟨m, hm⟩, hn⟩
      exact ⟨_, m, hm, hn, rfl⟩
  · intro e he
    rcases processFile_eq_error_iff.1 he with ⟨hm, rfl⟩ | ⟨hm, method, -, rfl⟩
    · rw [if_pos hm]; rfl
    · rw [if_neg hm]; rfl
  · intro m r hm hr test
    obtain ⟨m', hm', -, rfl⟩ := processFile_eq_ok_iff.1 hr
    obtain rfl : m = m' := Option.some.inj (hm.symm.trans hm')
    exact ⟨contains_collectResults, fun ps hps p => mem_of_get?_collectResults hps⟩
  · intro test file' r r' h hr hr'
    obtain ⟨m, hm, -, rfl⟩ := processFile_eq_ok_iff.1 hr
    obtain ⟨m', hm', -, rfl⟩ := processFile_eq_ok_iff.1 hr'
    obtain rfl : m = m' := Option.some.inj (hm.symm.trans hm')
    exact get?_collectResults_congr h

end ConfigCoverage
