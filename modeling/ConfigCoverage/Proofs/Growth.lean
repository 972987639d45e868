import ConfigCoverage.TestCase
import ConfigCoverage.Proofs.Contents
import ConfigCoverage.Proofs.Verdict
import ConfigCoverage.Proofs.Walk
import Mathlib.Data.List.Basic

/-!
# Growing test files

More test code never takes coverage away from a test case. A statement at the end of a body sees the bindings of all
that stand before it and changes none of them, whatever it writes, and a further method adds to the results under its
name. Rules that look at the body may say of a test case that has grown that it is none any more, and then what it set is
lost.

* `testCaseProperties_of_prefix`: what the beginning of a body sets, the whole body sets.
* `MethodsGrow.sets`, `MethodsGrow.get?`: the results of a file that grows only gain.
* `Report.exercised_subset`, `Report.untested_sublist`: a report on more results exercises more and misses less.
* `coverage_of_growth`: all of it from one file to another, as long as test cases stay test cases.
* `not_isComplete_of_growth`: coverage is lost under rules by which a long method is no test case.
-/

namespace ConfigCoverage

/-! ## Growth -/

/-- `b` is `a` with statements added at the end of its body. -/
structure Method.GrowsTo (a b : Method) : Prop where
  name : b.name = a.name
  markers : b.markers = a.markers
  body : a.body <+: b.body

/-- Methods grow in their places, and others are put anywhere between them. The relation `P` holds between each method
and what it has grown to. -/
inductive MethodsGrow (P : Method → Method → Prop) : List Method → List Method → Prop
  | nil : MethodsGrow P [] []
  | kept {a b : Method} {as bs : List Method} : a.GrowsTo b → P a b → MethodsGrow P as bs →
      MethodsGrow P (a :: as) (b :: bs)
  | inserted {b : Method} {as bs : List Method} : MethodsGrow P as bs → MethodsGrow P as (b :: bs)

theorem MethodsGrow.exists_growsTo {P : Method → Method → Prop} {as bs : List Method} (h : MethodsGrow P as bs)
    {a : Method} (ha : a ∈ as) : ∃ b ∈ bs, a.GrowsTo b ∧ P a b := by
  induction h with
  | nil => exact absurd ha List.not_mem_nil
  | @kept a' b as bs hg hp _ ih =>
    rcases List.mem_cons.1 ha with rfl | ha
    · exact ⟨b, List.mem_cons_self, hg, hp⟩
    · obtain ⟨b', hb', hg'⟩ := ih ha
      exact ⟨b', List.mem_cons_of_mem b hb', hg'⟩
  | @inserted b as bs _ ih =>
    obtain ⟨b', hb', hg'⟩ := ih ha
    exact ⟨b', List.mem_cons_of_mem b hb', hg'⟩

/-- If the one method is a test case, so is the other. -/
def Rules.StillTests (rules : Rules) (a b : Method) : Prop := rules.isTestCase a = true → rules.isTestCase b = true

/-- Markers and a pattern for names decide without a look at the body. -/
theorem TestCaseRule.stillTests (rule : TestCaseRule) (propertyName : String → Option String) {a b : Method}
    (h : a.GrowsTo b) : Rules.StillTests ⟨rule.accepts, propertyName⟩ a b := by
  intro ha
  simpa only [TestCaseRule.accepts, h.name, h.markers] using ha

/-! ## Results -/

variable {rules : Rules} {m : ModuleId}

/-- What the beginning of a body sets, the whole body sets. -/
theorem testCaseProperties_of_prefix {propertyName : String → Option String} {a b : Method} {p : Property}
    (h : a.body <+: b.body) (hp : p ∈ testCaseProperties propertyName m a) :
    p ∈ testCaseProperties propertyName m b := by
  obtain ⟨added, hb⟩ := h
  rw [testCaseProperties_eq_emitted, SortedSet.mem_ofList] at hp ⊢
  rw [← hb, flatten_append, emitted_append]
  exact List.mem_append_left _ hp

theorem MethodsGrow.sets {as bs : List Method} (h : MethodsGrow rules.StillTests as bs) {test : String}
    {p : Property} (hp : (collectResults rules m as).Sets test p) : (collectResults rules m bs).Sets test p := by
  obtain ⟨a, ha, ht, hn, hp⟩ := sets_collectResults.1 hp
  obtain ⟨b, hb, hg, still⟩ := h.exists_growsTo ha
  exact sets_collectResults.2 ⟨b, hb, still ht, hg.name.trans hn, testCaseProperties_of_prefix hg.body hp⟩

theorem MethodsGrow.contains {as bs : List Method} (h : MethodsGrow rules.StillTests as bs) {test : String}
    (ht : (collectResults rules m as).contains test = true) : (collectResults rules m bs).contains test = true := by
  obtain ⟨a, ha, ht, hn⟩ := contains_collectResults.1 ht
  obtain ⟨b, hb, hg, still⟩ := h.exists_growsTo ha
  exact contains_collectResults.2 ⟨b, hb, still ht, hg.name.trans hn⟩

/-- Every entry is kept, with all that is in it. -/
theorem MethodsGrow.get? {as bs : List Method} (h : MethodsGrow rules.StillTests as bs) {test : String}
    {ps : PropertySet} (hps : (collectResults rules m as).get? test = some ps) :
    ∃ ps', (collectResults rules m bs).get? test = some ps' ∧ ∀ p ∈ ps, p ∈ ps' := by
  obtain ⟨ps', hps'⟩ := ResultMap.contains_iff_get?.1 (h.contains (ResultMap.contains_iff_get?.2 ⟨ps, hps⟩))
  refine ⟨ps', hps', fun p hp => ?_⟩
  obtain ⟨ps'', hps'', hp⟩ := h.sets ⟨ps, hps, hp⟩
  rw [Option.some.inj (hps'.symm.trans hps'')]
  exact hp

/-! ## Reports -/

namespace Report

variable {info : ModuleInfo} {r r' : ResultMap} {excluded : Exclusions}

theorem exercised_subset (h : ∀ test p, r.Sets test p → r'.Sets test p) :
    (compute info r excluded).exercised ⊆ (compute info r' excluded).exercised := by
  intro name hn
  rw [mem_exercised, ResultMap.mem_propertyNames] at hn ⊢
  obtain ⟨⟨test, p, hp, hpn⟩, hx⟩ := hn
  exact ⟨⟨test, p, h test p hp, hpn⟩, hx⟩

/-- What is declared does not depend on the results, so that more of it exercised leaves less of it untested. -/
theorem untested_sublist
    (h : (compute info r excluded).exercised ⊆ (compute info r' excluded).exercised) :
    (compute info r' excluded).untested.Sublist (compute info r excluded).untested := by
  refine List.monotone_filter_right (compute info r excluded).declared fun name hn => ?_
  simp only [Bool.not_eq_true', ← Bool.not_eq_true, List.contains_iff_mem] at hn ⊢
  exact fun hx => hn (h hx)

theorem isComplete_of_sublist {report report' : Report} (h : report'.untested.Sublist report.untested)
    (hc : report.isComplete = true) : report'.isComplete = true := by
  unfold isComplete at hc ⊢
  rw [List.isEmpty_iff] at hc ⊢
  rw [hc] at h
  exact List.eq_nil_of_sublist_nil h

end Report

/-- **More test code never lowers coverage.** Under rules by markers and by a pattern for names, a test case whose body
grows stays a test case. Under any rules, let a file grow by statements at the ends of its methods, with test cases that
stay test cases, and by further methods anywhere: every test case keeps its properties, every exercised property stays
exercised, the untested ones are some of those before in the same order, and a complete report stays complete. -/
theorem coverage_of_growth :
    (∀ (rule : TestCaseRule) (propertyName : String → Option String) (a b : Method), a.GrowsTo b →
      Rules.StillTests ⟨rule.accepts, propertyName⟩ a b) ∧
    ∀ (c : Context) (info : ModuleInfo) (excluded : Exclusions) (file file' : SourceFile) (r r' : ResultMap),
      MethodsGrow c.rules.StillTests file.methods file'.methods →
      (c.process file).2 = .ok r → (c.process file').2 = .ok r' →
      (∀ test ps, r.get? test = some ps → ∃ ps', r'.get? test = some ps' ∧ ∀ p ∈ ps, p ∈ ps') ∧
      (Report.compute info r excluded).exercised ⊆ (Report.compute info r' excluded).exercised ∧
      (Report.compute info r' excluded).untested.Sublist (Report.compute info r excluded).untested ∧
      ((Report.compute info r excluded).isComplete = true →
        (Report.compute info r' excluded).isComplete = true) := by
  refine ⟨fun rule propertyName _ _ => rule.stillTests propertyName, ?_⟩
  intro c info excluded file file' r r' grown hr hr'
  rw [Context.process_eq] at hr hr'
  obtain ⟨m, hm, -, rfl⟩ := processFile_eq_ok_iff.1 hr
  obtain ⟨m', hm', -, rfl⟩ := processFile_eq_ok_iff.1 hr'
  obtain rfl : m = m' := Option.some.inj (hm.symm.trans hm')
  have hexercised : (Report.compute info _ excluded).exercised ⊆ (Report.compute info _ excluded).exercised :=
    Report.exercised_subset fun _ _ => grown.sets (m := m)
  have huntested := Report.untested_sublist hexercised
  exact ⟨fun _ _ => grown.get?, hexercised, huntested, Report.isComplete_of_sublist huntested⟩

/-- A test case that sets the one property of a module. -/
def smallFile : SourceFile :=
  ⟨"FooCheckTest.java", [⟨"testMax", ["Test"],
    [.localDecl "check" none (some (.new "FooCheck" [])),
     .expr (.call (some (.name "check")) "setMax" [.literal .number "1"])], 1⟩]⟩

/-- The same with a method in front, and with the name given to another object at the end of the test case. -/
def grownFile : SourceFile :=
  ⟨"FooCheckTest.java", [⟨"testDefault", ["Test"], [], 1⟩, ⟨"testMax", ["Test"],
    [.localDecl "check" none (some (.new "FooCheck" [])),
     .expr (.call (some (.name "check")) "setMax" [.literal .number "1"]),
     .assign (.name "check") (.new "Config" []),
     .expr (.call (some (.name "check")) "setMin" [.literal .number "2"])], 2⟩]⟩

/-- A context that looks for `FooCheck` in methods marked as tests. -/
def markerContext : Context :=
  (Context.ofRules ⟨(TestCaseRule.ofMarkers ["Test"]).accepts, setterProperty "set"⟩).setModule "FooCheck"

/-- The report on the small file is complete, so the report on the grown one is. -/
theorem isComplete_grownFile :
    ∃ r', (markerContext.process grownFile).2 = .ok r' ∧
      (Report.compute ⟨"FooCheck", "", ["max"]⟩ r' .empty).isComplete = true := by
  have hr : (markerContext.process smallFile).2 =
      .ok (collectResults markerContext.rules ⟨"FooCheck"⟩ smallFile.methods) := rfl
  have hr' : (markerContext.process grownFile).2 =
      .ok (collectResults markerContext.rules ⟨"FooCheck"⟩ grownFile.methods) := rfl
  obtain ⟨hstill, hgrowth⟩ := coverage_of_growth
  have grown : MethodsGrow markerContext.rules.StillTests smallFile.methods grownFile.methods := by
    have hgrows : (smallFile.methods.head (by decide)).GrowsTo (grownFile.methods.getLast (by decide)) :=
      ⟨rfl, rfl, by simp [smallFile, grownFile]⟩
    exact .inserted (.kept hgrows (hstill _ _ _ _ hgrows) .nil)
  obtain ⟨-, -, -, hcomplete⟩ := hgrowth markerContext ⟨"FooCheck", "", ["max"]⟩ .empty smallFile grownFile _ _
    grown hr hr'
  exact ⟨_, hr', hcomplete (by decide)⟩

/-- A context that looks for `FooCheck` in methods of two statements at most. -/
def shortBodyContext : Context :=
  (Context.ofRules ⟨fun method => decide (method.body.length ≤ 2), setterProperty "set"⟩).setModule "FooCheck"

/-- The test case has grown too long for these rules, and what it set is lost: the report was complete, and is not any
more. -/
theorem not_isComplete_of_growth :
    MethodsGrow (fun _ _ => True) smallFile.methods grownFile.methods ∧
    ∃ r r', (shortBodyContext.process smallFile).2 = .ok r ∧ (shortBodyContext.process grownFile).2 = .ok r' ∧
      (Report.compute ⟨"FooCheck", "", ["max"]⟩ r .empty).isComplete = true ∧
      (Report.compute ⟨"FooCheck", "", ["max"]⟩ r' .empty).isComplete = false := by
  refine ⟨.inserted (.kept ⟨rfl, rfl, by simp⟩ trivial .nil),
    collectResults shortBodyContext.rules ⟨"FooCheck"⟩ smallFile.methods,
    collectResults shortBodyContext.rules ⟨"FooCheck"⟩ grownFile.methods, rfl, rfl, ?_, ?_⟩
  · decide
  · decide

end ConfigCoverage
