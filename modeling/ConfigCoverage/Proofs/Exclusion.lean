import ConfigCoverage.Proofs.CoverageSums

/-!
# Excluding more properties

Names that are excluded are taken out of what is declared and out of what is exercised before the two are compared. It
comes to the same to compare first and to take the names out of the lists of the report, so that a further exclusion
hides names and changes nothing else.

* `filter_not_contains_filter`: a difference of two lists may be filtered before or after it is taken.
* `Report.compute_union`: the report under more exclusions is the report with the names taken out.
* `CoverageSummary.Accounts.without`: what is done to every report does nothing to the other lists of a summary.
* `CoverageCommand.excluding_more`: what comes of a comparison when names are added to its exclusions.
-/

namespace ConfigCoverage

/-! ## Reports -/

/-- A difference of two lists may be filtered before or after it is taken. -/
theorem filter_not_contains_filter (keep : String → Bool) (xs ys : List String) :
    ((xs.filter keep).filter fun x => !(ys.filter keep).contains x) =
      (xs.filter fun x => !ys.contains x).filter keep := by
  rw [List.filter_filter, List.filter_filter]
  refine List.filter_congr fun x _ => ?_
  cases hx : keep x with
  | false => simp
  | true =>
    have hmem : (ys.filter keep).contains x = ys.contains x := by
      rw [Bool.eq_iff_iff, List.contains_iff_mem, List.contains_iff_mem, List.mem_filter]
      simp [hx]
    rw [hmem, Bool.and_true, Bool.true_and]

theorem filter_not_contains_union (excluded names : Exclusions) (xs : List String) :
    (xs.filter fun x => !(excluded.union names).contains x) =
      (xs.filter fun x => !excluded.contains x).filter fun x => !names.contains x := by
  rw [List.filter_filter]
  refine List.filter_congr fun x _ => ?_
  have hunion : (excluded.union names).contains x = (names.contains x || excluded.contains x) := by
    rw [Bool.eq_iff_iff, Bool.or_eq_true]
    simp [or_comm]
  rw [hunion, Bool.not_or]

theorem SortedSet.ofList_append_toList (s t : SortedSet String) : ofList (s.toList ++ t.toList) = s.union t :=
  ext_mem fun x => by rw [mem_ofList, mem_union, List.mem_append, mem_def, mem_def]

namespace Report

/-- The report with names taken out of its lists, in their order, and put among those that are excluded. -/
def without (r : Report) (names : Exclusions) : Report :=
  { r with
    declared := r.declared.filter fun p => !names.contains p
    exercised := r.exercised.filter fun p => !names.contains p
    untested := r.untested.filter fun p => !names.contains p
    undeclared := r.undeclared.filter fun p => !names.contains p
    excluded := (SortedSet.ofList (r.excluded ++ names.toList)).toList }

/-- The report under more exclusions is the report with the names taken out. -/
theorem compute_union (info : ModuleInfo) (results : ResultMap) (excluded names : Exclusions) :
    compute info results (excluded.union names) = (compute info results excluded).without names := by
  simp only [compute, without, filter_not_contains_union, filter_not_contains_filter, SortedSet.ofList_append_toList]

theorem mem_excluded_union {info : ModuleInfo} {results : ResultMap} {excluded names : Exclusions} {name : String} :
    name ∈ (compute info results (excluded.union names)).excluded ↔ name ∈ excluded ∨ name ∈ names :=
  SortedSet.mem_union

end Report

/-! ## Summaries -/

/-- The report of a module under more exclusions. An error stays as it is. -/
theorem moduleReport_union (t : FileTree) (rules : Rules) (excluded names : Exclusions) (testRoot : String)
    (m : ModuleInfo) :
    moduleReport t rules (excluded.union names) testRoot m =
      (moduleReport t rules excluded testRoot m).map (·.without names) := by
  unfold moduleReport
  cases locateTestFile? t testRoot m with
  | none => rfl
  | some path =>
    simp only
    cases analyzeFile t rules ⟨m.identifier⟩ path with
    | error fault => rfl
    | ok results => exact congrArg Except.ok (Report.compute_union m results excluded names)

/-- The entry with names taken out of its report, if it has one. -/
def ModuleEntry.without (names : Exclusions) : ModuleEntry → ModuleEntry
  | .report r => .report (r.without names)
  | e => e

theorem ModuleInfo.entry_map (m : ModuleInfo) (skip : List String) (report : Except String Report)
    (names : Exclusions) : m.entry skip (report.map (·.without names)) = (m.entry skip report).without names := by
  unfold entry
  split
  · rfl
  · cases report <;> rfl

namespace CoverageSummary

/-- The summary with names taken out of its reports, which are counted anew. -/
def without (s : CoverageSummary) (names : Exclusions) : CoverageSummary :=
  { s with
    complete := (s.reports.map (·.without names)).countP fun r => r.untested = []
    incomplete := (s.reports.map (·.without names)).countP fun r => r.untested ≠ []
    reports := s.reports.map (·.without names) }

/-- The entries determine the summary. -/
theorem Accounts.unique {s s' : CoverageSummary} {entries : List ModuleEntry} (h : s.Accounts entries)
    (h' : s'.Accounts entries) : s = s' := by
  have hreports : s.reports = s'.reports := h.reports.trans h'.reports.symm
  have hcomplete : s.complete = s'.complete := by rw [h.complete, h'.complete, hreports]
  have hincomplete : s.incomplete = s'.incomplete := by rw [h.incomplete, h'.incomplete, hreports]
  have hskipped : s.skipped = s'.skipped := h.skipped.trans h'.skipped.symm
  have herrors : s.errors = s'.errors := h.errors.trans h'.errors.symm
  cases s
  cases s'
  simp_all

/-- What is done to every report does nothing to the other lists of a summary. -/
theorem Accounts.without {s : CoverageSummary} {entries : List ModuleEntry} (h : s.Accounts entries)
    (names : Exclusions) : (s.without names).Accounts (entries.map (ModuleEntry.without names)) := by
  have hskipped : ModuleEntry.skipped? ∘ ModuleEntry.without names = ModuleEntry.skipped? := by
    funext e
    cases e <;> rfl
  have hreport : ModuleEntry.report? ∘ ModuleEntry.without names =
      fun e : ModuleEntry => e.report?.map (·.without names) := by
    funext e
    cases e <;> rfl
  have herror : ModuleEntry.error? ∘ ModuleEntry.without names = ModuleEntry.error? := by
    funext e
    cases e <;> rfl
  refine ⟨?_, ?_, ?_, rfl, rfl⟩
  · rw [List.filterMap_map, hskipped]
    exact h.skipped
  · rw [List.filterMap_map, hreport, ← List.map_filterMap]
    exact congrArg (List.map (·.without names)) h.reports
  · rw [List.filterMap_map, herror]
    exact h.errors

theorem ofModules_without (modules : List ModuleInfo) (skip : List String)
    (report : ModuleInfo → Except String Report) (names : Exclusions) :
    ofModules modules skip (fun m => (report m).map (·.without names)) =
      (ofModules modules skip report).without names := by
  have h := accounts_ofModules modules skip fun m => (report m).map (·.without names)
  have h' := (accounts_ofModules modules skip report).without names
  rw [List.map_map] at h'
  refine h.unique ?_
  simp only [ModuleInfo.entry_map]
  exact h'

variable {s : CoverageSummary} {entries : List ModuleEntry} (h : s.Accounts entries) (names : Exclusions)

theorem map_module_without (s : CoverageSummary) (names : Exclusions) :
    (s.without names).reports.map Report.module = s.reports.map Report.module := by
  rw [CoverageSummary.without, List.map_map]
  rfl

include h

theorem Accounts.incomplete_without_le : (s.without names).incomplete ≤ s.incomplete := by
  rw [h.incomplete, (h.without names).incomplete, CoverageSummary.without]
  dsimp only
  rw [List.countP_map]
  refine List.countP_mono_left fun r _ hr => ?_
  rw [decide_eq_true_iff]
  intro hc
  have hnone : (r.without names).untested = [] := by rw [Report.without, hc, List.filter_nil]
  simp [hnone] at hr

/-- The bit for errors stays, and the bit for untested properties is not set anew. -/
theorem Accounts.testBit_status_without (failOnUntested failOnError : Bool) :
    (((s.without names).status failOnUntested failOnError).testBit 0 = true ↔
      (s.status failOnUntested failOnError).testBit 0 = true) ∧
    (((s.without names).status failOnUntested failOnError).testBit 1 = true →
      (s.status failOnUntested failOnError).testBit 1 = true) := by
  obtain ⟨hbit₀, hbit₁, -⟩ := h.testBit_status failOnUntested failOnError
  obtain ⟨hbit₀', hbit₁', -⟩ := (h.without names).testBit_status failOnUntested failOnError
  rw [← h.incomplete_pos_iff] at hbit₁
  rw [← (h.without names).incomplete_pos_iff] at hbit₁'
  refine ⟨hbit₀'.trans hbit₀.symm, fun hset => hbit₁.2 ?_⟩
  obtain ⟨hf, hpos⟩ := hbit₁'.1 hset
  exact ⟨hf, Nat.lt_of_lt_of_le hpos (h.incomplete_without_le names)⟩

end CoverageSummary

/-! ## Comparisons -/

/-- The settings with more names to exclude. -/
def Settings.excluding (s : Settings) (names : List String) : Settings :=
  { s with coverage := { s.coverage with excludeProperties := s.coverage.excludeProperties ++ names } }

namespace CoverageCommand

/-- The comparison with more names to exclude. -/
def excluding (c : CoverageCommand) (names : List String) : CoverageCommand :=
  { c with excludeProperties := c.excludeProperties ++ names }

/-- Settings that differ in the names to exclude lead to the same fault, or to the same summary but for these names. -/
theorem summary_of_exclusions {c : CoverageCommand} {rules : Rules} {settings settings' : CoverageSettings}
    {names : Exclusions} (hskip : settings'.skipModules = settings.skipModules)
    (hroot : settings'.testRoot = settings.testRoot)
    (hnames : SortedSet.ofList settings'.excludeProperties =
      (SortedSet.ofList settings.excludeProperties).union names) (w : World) :
    c.summary rules settings' w = ((c.summary rules settings w).1.map (·.without names), w) := by
  unfold summary
  rw [Action.getFiles_bind_apply, Action.getFiles_bind_apply, hskip, hroot, hnames]
  cases w.files.canonical c.repository with
  | error e => rfl
  | ok repository =>
    cases Catalog.ofFile w.files c.catalog with
    | error e => rfl
    | ok catalog =>
      simp only [Action.check_mapError_ok, pure_bind]
      cases catalog.select c.modules with
      | error e => rfl
      | ok modules =>
        have hreport := funext (moduleReport_union w.files rules (.ofList settings.excludeProperties) names
          (Path.join repository settings.testRoot))
        simp only [Action.check_ok, pure_bind, hreport]
        by_cases hw : w.host.CanWork c.workers (CoverageSummary.sortOut settings.skipModules modules).2.length
        · rw [workers_bind_apply hw, workers_bind_apply hw]
          exact congrArg (fun s => (Except.ok s, w)) (CoverageSummary.ofModules_without modules _ _ names)
        · obtain ⟨fault, -, hf⟩ := workers_bind_apply_error hw
          rw [hf, hf]
          rfl

theorem summary_excluding (c : CoverageCommand) (config : Settings) (rules : Rules) (names : List String) (w : World) :
    (c.excluding names).summary rules ((c.excluding names).settings config) w =
      ((c.summary rules (c.settings config) w).1.map (·.without (.ofList names)), w) := by
  have hsame : (c.excluding names).summary = c.summary := rfl
  rw [hsame]
  refine @summary_of_exclusions c rules (c.settings config) ((c.excluding names).settings config) (.ofList names) rfl rfl
    (SortedSet.ext_mem fun x => ?_) w
  simp only [settings, excluding, SortedSet.mem_union, SortedSet.mem_ofList, List.mem_append, or_assoc]

/-- It is all the same whether the names are added to the command or to its settings. -/
theorem summary_settings_excluding (c : CoverageCommand) (config : Settings) (rules : Rules) (names : List String)
    (w : World) :
    c.summary rules (c.settings (config.excluding names)) w =
      ((c.summary rules (c.settings config) w).1.map (·.without (.ofList names)), w) := by
  refine @summary_of_exclusions c rules (c.settings config) (c.settings (config.excluding names)) (.ofList names) rfl rfl
    (SortedSet.ext_mem fun x => ?_) w
  simp only [settings, Settings.excluding, SortedSet.mem_union, SortedSet.mem_ofList, List.mem_append]
  rw [or_right_comm]

/-- **Excluding more properties only filters.** The report under the union of two exclusions is the report under the
first, with the names of the second taken out of its four lists; the excluded names are those of either, ascending. So
names that are added to the exclusions of a comparison, by the command or in its settings, leave its fault as it is if
it has one, and else what is skipped, the errors and the modules with reports. No further report is incomplete, the bit
for errors stays as it is, and the bit for untested properties is not set anew. -/
theorem excluding_more (c : CoverageCommand) (config : Settings) (rules : Rules) (quiet : Bool) (added : List String)
    (w : World) :
    (∀ (info : ModuleInfo) (results : ResultMap) (excluded names : Exclusions),
      Report.compute info results (excluded.union names) = (Report.compute info results excluded).without names ∧
      Ascending (Report.compute info results (excluded.union names)).excluded ∧
      ∀ name, name ∈ (Report.compute info results (excluded.union names)).excluded ↔
        name ∈ excluded ∨ name ∈ names) ∧
    (c.excluding added).run config rules quiet w = c.run (config.excluding added) rules quiet w ∧
    (∀ fault, (c.run config rules quiet w).1 = .error fault →
      ((c.excluding added).run config rules quiet w).1 = .error fault) ∧
    (∀ status, (c.run config rules quiet w).1 = .ok status →
      ∃ status', ((c.excluding added).run config rules quiet w).1 = .ok status' ∧
        (status'.testBit 0 = true ↔ status.testBit 0 = true) ∧
        (status'.testBit 1 = true → status.testBit 1 = true)) ∧
    ∀ s w', c.summary rules (c.settings config) w = (.ok s, w') →
      ∃ s', (c.excluding added).summary rules ((c.excluding added).settings config) w = (.ok s', w) ∧
        c.summary rules (c.settings (config.excluding added)) w = (.ok s', w) ∧
        s'.skipped = s.skipped ∧ s'.errors = s.errors ∧
        s'.reports = s.reports.map (·.without (.ofList added)) ∧
        s'.reports.map Report.module = s.reports.map Report.module ∧
        s'.incomplete ≤ s.incomplete := by
  have hcommand := c.summary_excluding config rules added w
  have hsettings := c.summary_settings_excluding config rules added w
  refine ⟨fun info results excluded names =>
    ⟨Report.compute_union info results excluded names, (excluded.union names).ascending,
      fun name => Report.mem_excluded_union⟩, ?_, ?_⟩
  · rw [run, run, Action.bind_apply, Action.bind_apply, hcommand, hsettings]
    rfl
  · cases hs : c.summary rules (c.settings config) w with
    | mk result w' =>
      rw [hs] at hcommand hsettings
      cases result with
      | error e =>
        rw [run, run, Action.bind_apply_of_error hs, Action.bind_apply_of_error hcommand]
        refine ⟨fun fault h => h, fun status h => ?_, fun s w' h => ?_⟩
        · cases h
        · cases h
      | ok s =>
        obtain ⟨entries, haccounts⟩ := accounts_of_summary hs
        obtain ⟨hbit₀, hbit₁⟩ := haccounts.testBit_status_without (.ofList added) c.failOnUntested c.failOnError
        have hrun : (c.run config rules quiet w).1 =
            (writeDocument c.document s.toJson w).1.map fun _ => s.status c.failOnUntested c.failOnError := by
          rw [run_apply_of_summary hs quiet, Action.bind_pure_fst]
          exact congrArg _ (Action.writeDocument_fst_eq _ _ _ rfl)
        have hrun' : ((c.excluding added).run config rules quiet w).1 =
            (writeDocument c.document s.toJson w).1.map fun _ =>
              (s.without (.ofList added)).status c.failOnUntested c.failOnError := by
          rw [run_apply_of_summary hcommand quiet, Action.bind_pure_fst]
          exact congrArg _ (Action.writeDocument_fst_eq _ _ _ rfl)
        rw [hrun, hrun']
        refine ⟨fun fault h => ?_, fun status h => ?_, fun s' w'' h => ?_⟩
        · cases hd : (writeDocument c.document s.toJson w).1 with
          | ok _ => rw [hd] at h; cases h
          | error e => rw [hd] at h; exact h
        · cases hd : (writeDocument c.document s.toJson w).1 with
          | error e => rw [hd] at h; cases h
          | ok _ =>
            rw [hd] at h
            cases h
            exact ⟨_, rfl, hbit₀, hbit₁⟩
        · cases h
          exact ⟨s.without (.ofList added), hcommand, hsettings, rfl, rfl, rfl, s.map_module_without _,
            haccounts.incomplete_without_le _⟩

/-- A module with two properties, and a test that sets one of them. -/
def halfTestedTree : FileTree where
  root := .directory
    [("modules.json",
        .file "[\x7b\"name\":\"Foo\",\"properties\":[\x7b\"name\":\"max\"\x7d,\x7b\"name\":\"min\"\x7d]\x7d]".toUTF8),
     ("FooTest.java", .file "class A\x7b@Test void t()\x7bFoo f=new Foo();f.setMax(1);\x7d\x7d".toUTF8)]
  current := []

/-- A comparison that fails on untested properties. -/
def strictComparison : CoverageCommand where
  catalog := "modules.json"
  repository := "."
  testRoot := some ""
  modules := []
  skip := []
  excludeProperties := []
  workers := none
  json := false
  document := none
  failOnUntested := true
  failOnError := true

theorem summary_strictComparison :
    strictComparison.summary .standard (strictComparison.settings {}) { files := halfTestedTree } =
      (.ok { incomplete := 1, reports := [⟨"Foo", ["max", "min"], ["max"], ["min"], [], ["tokens"], 1, []⟩] },
        { files := halfTestedTree }) :=
  Prod.ext (eq_ok_of_toOption (by decide +kernel)) ((strictComparison.reads_summary _ _).world _)

/-- One property is untested, and with that one excluded none is. -/
theorem excluding_more_strictComparison :
    ∃ s', (strictComparison.excluding ["min"]).summary .standard
        ((strictComparison.excluding ["min"]).settings {}) { files := halfTestedTree } =
          (.ok s', { files := halfTestedTree }) ∧
      s'.reports = [⟨"Foo", ["max"], ["max"], [], [], ["min", "tokens"], 1, []⟩] ∧ s'.incomplete ≤ 1 := by
  obtain ⟨-, -, -, -, hadded⟩ := excluding_more strictComparison {} .standard false ["min"] { files := halfTestedTree }
  obtain ⟨s', hs', -, -, -, hreports, -, hle⟩ := hadded _ _ summary_strictComparison
  exact ⟨s', hs', hreports.trans (by decide), hle⟩

end CoverageCommand

end ConfigCoverage
