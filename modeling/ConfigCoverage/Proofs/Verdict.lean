import ConfigCoverage.Coverage
import ConfigCoverage.Proofs.Alias
import ConfigCoverage.Proofs.Results

/-!
# What a verdict means

A module is covered when each of its declared properties, the excluded ones apart, is set somewhere in a test case of
the file on a name that denotes the module there.

* `exists_stmtProperty_iff`: which statements set a property.
* `Report.isComplete_compute_iff`: a report is complete iff every declared property is set or excluded.
* `isComplete_iff_configured`: a verdict in terms of the statements of the file and of last writes.
-/

namespace ConfigCoverage

/-! ## Statements that configure -/

/-- A statement sets the property `name` of what `x` stands for: by a setter with an argument, or by an assignment to
the field. -/
def Stmt.Configures (propertyName : String → Option String) (s : Stmt) (x name : String) : Prop :=
  (∃ method args, s = .expr (.call (some (.name x)) method args) ∧ args ≠ [] ∧ propertyName method = some name) ∨
    ∃ value, s = .assign (.field (.name x) name) value

/-- Statement `i` of a body sets the property `name` of an instance of the module. -/
def ConfiguredAt (propertyName : String → Option String) (m : ModuleId) (body : List Stmt) (i : Nat)
    (name : String) : Prop :=
  ∃ s x, body[i]? = some s ∧ s.Configures propertyName x name ∧ Denotes m body (i + 1) x

variable {propertyName : String → Option String} {m : ModuleId}

/-- A statement yields a property of a given name iff it configures it on a name that stands for the module. -/
theorem exists_stmtProperty_iff {b : Bindings} {s : Stmt} {name : String} :
    (∃ p, stmtProperty propertyName b s = some p ∧ p.name = name) ↔
      ∃ x, s.Configures propertyName x name ∧ b.state x = .module := by
  constructor
  · rintro ⟨p, hp, rfl⟩
    obtain ⟨x, hx, hs⟩ := stmtProperty_eq_some_iff.1 hp
    refine ⟨x, ?_, hx⟩
    rcases hs with ⟨method, args, hs, hne, hn, -⟩ | ⟨value, hs, -⟩
    · exact .inl ⟨method, args, hs, hne, hn⟩
    · exact .inr ⟨value, hs⟩
  · rintro ⟨x, hs, hx⟩
    rcases hs with ⟨method, args, hs, hne, hn⟩ | ⟨value, hs⟩
    · exact ⟨⟨name, joinedSpelling args⟩,
        stmtProperty_eq_some_iff.2 ⟨x, hx, .inl ⟨method, args, hs, hne, hn, rfl⟩⟩, rfl⟩
    · exact ⟨⟨name, value.spelling⟩, stmtProperty_eq_some_iff.2 ⟨x, hx, .inr ⟨value, hs, rfl⟩⟩, rfl⟩

/-- A property is set somewhere in a test case iff a statement sets it on a name that denotes the module there. -/
theorem exists_mem_testCaseProperties_iff {method : Method} {name : String} :
    (∃ p ∈ testCaseProperties propertyName m method, p.name = name) ↔
      ∃ i, ConfiguredAt propertyName m (flatten method.body) i name := by
  constructor
  · rintro ⟨p, hp, hn⟩
    obtain ⟨i, s, b, hs, hb, hp⟩ := mem_testCaseProperties.1 hp
    obtain ⟨x, hc, hx⟩ := exists_stmtProperty_iff.1 ⟨p, hp, hn⟩
    have hi : i < (flatten method.body).length := (List.getElem?_eq_some_iff.1 hs).1
    obtain rfl : bindingsBefore m (flatten method.body) (i + 1) = b :=
      Option.some.inj ((getElem?_track hi).symm.trans hb)
    exact ⟨i, s, x, hs, hc, state_eq_module_iff.1 hx⟩
  · rintro ⟨i, s, x, hs, hc, hx⟩
    have hi : i < (flatten method.body).length := (List.getElem?_eq_some_iff.1 hs).1
    obtain ⟨p, hp, hn⟩ := exists_stmtProperty_iff.2 ⟨x, hc, state_eq_module_iff.2 hx⟩
    exact ⟨p, mem_testCaseProperties.2 ⟨i, s, _, hs, getElem?_track hi, hp⟩, hn⟩

/-! ## Reports -/

theorem mem_foldl_firstOccurrences {t : String} {seen texts : List String} :
    t ∈ texts.foldl (fun seen t => if seen.contains t then seen else seen ++ [t]) seen ↔ t ∈ seen ∨ t ∈ texts := by
  induction texts generalizing seen with
  | nil => simp
  | cons u texts ih =>
    rw [List.foldl_cons, ih, List.mem_cons]
    by_cases hu : seen.contains u = true
    · rw [if_pos hu]
      constructor
      · rintro (h | h)
        · exact .inl h
        · exact .inr (.inr h)
      · rintro (h | rfl | h)
        · exact .inl h
        · exact .inl (List.contains_iff_mem.1 hu)
        · exact .inr h
    · rw [if_neg hu, List.mem_append, List.mem_singleton, or_assoc]

/-- Dropping repetitions keeps every declared property. -/
theorem mem_propertyNames_iff_declared {info : ModuleInfo} {name : String} :
    name ∈ info.propertyNames ↔ name ∈ info.properties := by
  unfold ModuleInfo.propertyNames firstOccurrences
  rw [mem_foldl_firstOccurrences]
  simp

namespace Report

variable {info : ModuleInfo} {results : ResultMap} {excluded : Exclusions} {name : String}

theorem mem_declared :
    name ∈ (compute info results excluded).declared ↔ name ∈ info.properties ∧ name ∉ excluded := by
  simp [compute, mem_propertyNames_iff_declared, ← SortedSet.contains_iff_mem]

theorem mem_exercised :
    name ∈ (compute info results excluded).exercised ↔ name ∈ results.propertyNames ∧ name ∉ excluded := by
  simp [compute, SortedSet.mem_def, SortedSet.contains]

theorem mem_untested :
    name ∈ (compute info results excluded).untested ↔
      name ∈ (compute info results excluded).declared ∧ name ∉ (compute info results excluded).exercised := by
  show name ∈ (compute info results excluded).declared.filter
    (fun p => !(compute info results excluded).exercised.contains p) ↔ _
  rw [List.mem_filter, Bool.not_eq_true', ← Bool.not_eq_true, List.contains_iff_mem]

/-- A report is complete iff every declared property that is not excluded is among the results. -/
theorem isComplete_compute_iff :
    (compute info results excluded).isComplete = true ↔
      ∀ name ∈ info.properties, name ∉ excluded → name ∈ results.propertyNames := by
  unfold isComplete
  rw [List.isEmpty_iff, List.eq_nil_iff_forall_not_mem]
  constructor
  · intro h name hd hx
    have hn := h name
    rw [mem_untested, mem_declared, mem_exercised] at hn
    exact Decidable.byContradiction fun hr => hn ⟨⟨hd, hx⟩, fun he => hr he.1⟩
  · intro h name hn
    rw [mem_untested, mem_declared, mem_exercised] at hn
    obtain ⟨⟨hd, hx⟩, he⟩ := hn
    exact he ⟨h name hd hx, hx⟩

end Report

/-- **The meaning of a verdict.** A report on a file whose methods are all named is complete iff each declared property
that is not excluded is set in some test case of the file, by a statement on a name that denotes the module there. -/
theorem isComplete_iff_configured (c : Context) (info : ModuleInfo) (excluded : Exclusions) (file : SourceFile)
    (named : ∀ method ∈ file.methods, trimmed method.name ≠ "") :
    ∃ results, ((c.setModule info.identifier).process file).2 = .ok results ∧
      ((Report.compute info results excluded).isComplete = true ↔
        ∀ name ∈ info.properties, name ∉ excluded →
          ∃ method ∈ file.methods, c.rules.isTestCase method = true ∧
            ∃ i, ConfiguredAt c.rules.propertyName ⟨info.identifier⟩ (flatten method.body) i name) := by
  refine ⟨collectResults c.rules ⟨info.identifier⟩ file.methods, ?_, ?_⟩
  · rw [Context.process_eq]
    exact processFile_of_named named
  · rw [Report.isComplete_compute_iff]
    refine forall₃_congr fun name _ _ => ?_
    rw [ResultMap.mem_propertyNames]
    constructor
    · rintro ⟨test, p, hp, hn⟩
      obtain ⟨method, hm, ht, -, hp⟩ := sets_collectResults.1 hp
      exact ⟨method, hm, ht, exists_mem_testCaseProperties_iff.1 ⟨p, hp, hn⟩⟩
    · rintro ⟨method, hm, ht, hi⟩
      obtain ⟨p, hp, hn⟩ := exists_mem_testCaseProperties_iff.2 hi
      exact ⟨method.name, p, sets_collectResults.2 ⟨method, hm, ht, rfl, hp⟩, hn⟩

/-- A test case that constructs an instance, copies its name inside a block and sets a property on the copy. -/
def aliasedTest : SourceFile :=
  ⟨"FooCheckTest.java", [⟨"testMax", ["Test"],
    [.localDecl "check" (some "Object") (some (.new "FooCheck" [])),
     .block [.assign (.name "copy") (.name "check"),
       .expr (.call (some (.name "copy")) "setMax" [.literal .number "1"])]], 3⟩]⟩

/-- The one property of `FooCheck` that is not excluded is covered through the alias. -/
theorem isComplete_aliasedTest :
    ∃ results, (((Context.ofRules ⟨fun method => method.markers.contains "Test", setterProperty "set"⟩).setModule
        "a.FooCheck").process aliasedTest).2 = .ok results ∧
      (Report.compute ⟨"FooCheck", "a.FooCheck", ["max", "tokens"]⟩ results
        (.ofList ["tokens"])).isComplete = true := by
  have named : ∀ method ∈ aliasedTest.methods, trimmed method.name ≠ "" := by
    intro method hm
    rw [List.mem_singleton.1 hm]
    decide
  obtain ⟨results, hr, hv⟩ := isComplete_iff_configured
    (.ofRules ⟨fun method => method.markers.contains "Test", setterProperty "set"⟩)
    ⟨"FooCheck", "a.FooCheck", ["max", "tokens"]⟩ (.ofList ["tokens"]) aliasedTest named
  refine ⟨results, hr, hv.2 fun name hn hx => ⟨_, List.mem_singleton.2 rfl, by decide, 2, _, "copy", rfl, ?_, ?_⟩⟩
  · have hmax : name = "max" := by
      rcases List.mem_cons.1 hn with h | h
      · exact h
      · exact absurd (by rw [List.mem_singleton.1 h]; decide) hx
    rw [hmax]
    exact .inl ⟨_, _, rfl, by simp, by decide⟩
  · exact state_eq_module_iff.1 (by decide)

end ConfigCoverage
