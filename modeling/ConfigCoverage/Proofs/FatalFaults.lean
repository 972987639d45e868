import ConfigCoverage.Command.Run
import ConfigCoverage.Proofs.CoverageSums
import ConfigCoverage.Proofs.ScanSums

/-!
# Runs that end with a fault

A command reads before it prints or writes anything, and the only fault after that is about the document to be written.
So any other fault leaves nothing behind. Which runs end with such a fault can be told without a look at the tests: a
test that cannot be analysed ends an analysis of this one file, and is an entry in what a scan or a comparison finds.

* `Selection.exists_ofTexts_iff`: which globs make a selection.
* `ScanCommand.clean_run`, `CoverageCommand.clean_run`, `Invocation.clean_action`: what a fault leaves behind, step by
  step.
* `ScanCommand.proceeds_run_iff`, `CoverageCommand.proceeds_run_iff`, `Invocation.proceeds_action_iff`: which runs come
  as far as their document.
* `ScanCommand.run_apply_of_feasible`, `CoverageCommand.run_apply_of_feasible`: what these do, with an entry for each
  file or module that fails.
* `fatal_leaves_nothing`: what a run with a fault leaves behind, and which runs these are.
-/

namespace ConfigCoverage

/-! ## Scans -/

namespace Selection

theorem exists_readGlobs_iff {texts : List String} :
    (∃ globs, readGlobs texts = .ok globs) ↔ ∀ text ∈ texts, Glob.ofString? text true ≠ none := by
  induction texts with
  | nil => simp [readGlobs]
  | cons text texts ih =>
    rw [List.forall_mem_cons, ← ih]
    cases hg : Glob.ofString? text true with
    | none => simp [readGlobs, hg]
    | some g =>
      cases hr : readGlobs texts with
      | error e => simp [readGlobs, hg, hr, Except.map]
      | ok globs => simp [readGlobs, hg, hr, Except.map]

theorem readable_defaults :
    ∀ text ∈ defaultIncludes ++ defaultExcludes, Glob.ofString? text true ≠ none := by
  decide +kernel

/-- Globs make a selection iff each of them can be read; those that stand for none can. -/
theorem exists_ofTexts_iff {includes excludes : List String} :
    (∃ s, ofTexts includes excludes = .ok s) ↔ ∀ text ∈ includes ++ excludes, Glob.ofString? text true ≠ none := by
  obtain ⟨hdefaultIncludes, hdefaultExcludes⟩ := List.forall_mem_append.1 readable_defaults
  have hincludes : (∀ text ∈ if includes.isEmpty then defaultIncludes else includes, Glob.ofString? text true ≠ none) ↔
      ∀ text ∈ includes, Glob.ofString? text true ≠ none := by
    cases includes with
    | nil => simpa using hdefaultIncludes
    | cons text texts => rfl
  have hexcludes : (∀ text ∈ defaultExcludes ++ excludes, Glob.ofString? text true ≠ none) ↔
      ∀ text ∈ excludes, Glob.ofString? text true ≠ none := by
    rw [List.forall_mem_append, and_iff_right hdefaultExcludes]
  rw [List.forall_mem_append, ← hincludes, ← hexcludes, ← exists_readGlobs_iff, ← exists_readGlobs_iff]
  unfold ofTexts
  cases readGlobs (if includes.isEmpty then defaultIncludes else includes) with
  | error e => simp
  | ok included =>
    cases readGlobs (defaultExcludes ++ excludes) with
    | error e => simp [Except.map]
    | ok excluded => simp [Except.map]

theorem readGlobs_eq_error {texts : List String} {fault : Fault} (h : readGlobs texts = .error fault) :
    ∃ text ∈ texts, fault = .invalidGlob text := by
  induction texts with
  | nil => cases h
  | cons text texts ih =>
    rw [readGlobs] at h
    cases hg : Glob.ofString? text true with
    | none =>
      rw [hg] at h
      cases h
      exact ⟨text, List.mem_cons_self, rfl⟩
    | some g =>
      cases hr : readGlobs texts with
      | error e =>
        simp only [hg, hr, Except.map, Except.error.injEq] at h
        obtain ⟨bad, hb, hf⟩ := ih (h ▸ hr)
        exact ⟨bad, List.mem_cons_of_mem text hb, hf⟩
      | ok globs => simp [hg, hr, Except.map] at h

theorem ofTexts_eq_error {includes excludes : List String} {fault : Fault}
    (h : ofTexts includes excludes = .error fault) :
    ∃ text, fault = .invalidGlob text := by
  unfold ofTexts at h
  cases hi : readGlobs (if includes.isEmpty then defaultIncludes else includes) with
  | error e =>
    simp only [hi, Except.error.injEq] at h
    obtain ⟨text, -, hf⟩ := readGlobs_eq_error hi
    exact ⟨text, h ▸ hf⟩
  | ok included =>
    cases he : readGlobs (defaultExcludes ++ excludes) with
    | error e =>
      simp only [hi, he, Except.map, Except.error.injEq] at h
      obtain ⟨text, -, hf⟩ := readGlobs_eq_error he
      exact ⟨text, h ▸ hf⟩
    | ok excluded => simp only [hi, he, Except.map, reduceCtorEq] at h

end Selection

namespace ScanStats

/-- A failure that was counted stays, and a file that fails is counted as a failure. -/
theorem get?_failures_foldl_add {analyze : String → ScanOutcome} {paths : List String} {s : ScanStats} {path : String}
    {fault : FileFault} (hf : analyze path = .error fault)
    (h : path ∈ paths ∨ s.failures.get? path = some fault.message) :
    ((paths.map fun p => (p, analyze p)).foldl (fun s e => s.add e.1 e.2) s).failures.get? path =
      some fault.message := by
  induction paths generalizing s with
  | nil => simpa using h
  | cons p paths ih =>
    rw [List.map_cons, List.foldl_cons]
    apply ih
    by_cases hp : path = p
    · subst hp
      right
      simp only [hf, add, SortedMap.get?_put, if_true]
    · rcases h with h | h
      · exact .inl ((List.mem_cons.1 h).resolve_left hp)
      · right
        cases hr : analyze p with
        | ok results => simpa only [add] using h
        | error e => simp only [add, SortedMap.get?_put, if_neg hp, h]

end ScanStats

namespace ScanCommand

/-- What a scan needs. What is in the files that it takes has no part in it. -/
def Feasible (c : ScanCommand) (host : Host) (t : FileTree) : Prop :=
  (∀ text ∈ c.includes ++ c.excludes, Glob.ofString? text true ≠ none) ∧
  ∃ place entries, t.resolve c.directory = .ok place ∧ t.get? place = some (.directory entries) ∧
    ∀ selection, Selection.ofTexts c.includes c.excludes = .ok selection →
      host.CanWork c.workers (selection.candidates c.walk.followLinks (t.walk c.walk place)).length

section Items

variable (c : ScanCommand) (quiet : Bool) (selection : Selection) (analyze : String → ScanOutcome)
  (items : List WalkItem)

theorem reads_outcomes : (c.outcomes selection analyze items).Reads :=
  (reads_resolveWorkers _).bind fun _ => (reads_mapWorkers _ _ _).bind fun _ => Action.reads_pure _

theorem reports_report (s : ScanStats) : (c.report quiet s).Reports := by
  intro w fault h
  rw [report_apply] at h
  exact Action.reports_writeDocument _ _ _ fault h

/-- The files are analysed before the first of them is spoken of. -/
theorem clean_scanItems : (c.scanItems quiet selection analyze items).Clean := by
  have hstats : (c.stats quiet selection analyze items).Clean :=
    (c.reads_outcomes selection analyze items).bind_clean fun outcomes =>
      (ScanStats.prints_tally _ _ outcomes).reports.clean
  exact hstats.bind_reports fun s => (c.reports_report quiet s).bind fun _ => Action.reports_pure _

theorem proceeds_scanItems_iff {w : World} :
    (c.scanItems quiet selection analyze items).Proceeds w ↔
      w.host.CanWork c.workers (selection.candidates c.walk.followLinks items).length := by
  have hrest : ∀ outcomes, (ScanStats.tally (!quiet && !c.json) (items.filter (· == .failure)).length outcomes >>=
      fun stats => c.report quiet stats >>= fun _ =>
        pure (if c.failOnError && decide (0 < stats.errors) then 1 else 0)).Reports := fun outcomes =>
    (ScanStats.prints_tally _ _ outcomes).reports.bind fun stats =>
      (c.reports_report quiet stats).bind fun _ => Action.reports_pure _
  unfold scanItems stats
  rw [bind_assoc, (c.reads_outcomes selection analyze items).proceeds_bind_iff]
  constructor
  · rintro ⟨outcomes, h, -⟩
    exact (outcomes_apply_eq_ok_iff.1 (Prod.ext h rfl)).1
  · intro h
    have houtcomes : c.outcomes selection analyze items w = (.ok (c.pairs selection analyze items), w) :=
      outcomes_apply_eq_ok_iff.2 ⟨h, rfl, rfl⟩
    exact ⟨_, congrArg Prod.fst houtcomes, hrest _ w⟩

end Items

variable {c : ScanCommand} {rules : Rules} {quiet : Bool} {w : World}

theorem start_eq_ok_iff {t : FileTree} {place : Place} :
    c.start t = .ok place ↔ t.resolve c.directory = .ok place ∧ ∃ entries, t.get? place = some (.directory entries) := by
  unfold start
  constructor
  · intro h
    split at h
    · cases h
    · split at h
      · rename_i found hr _ entries hn
        cases h
        exact ⟨hr, entries, hn⟩
      · cases h
  · rintro ⟨hr, entries, hn⟩
    simp only [hr, hn]

theorem isAboutDocument_of_start {t : FileTree} {fault : Fault} (h : c.start t = .error fault) :
    fault.isAboutDocument = false := by
  unfold start at h
  split at h
  · cases h
    rfl
  · split at h
    · cases h
    · cases h
      rfl

theorem isAboutDocument_of_ofTexts {includes excludes : List String} {fault : Fault}
    (h : Selection.ofTexts includes excludes = .error fault) : fault.isAboutDocument = false := by
  obtain ⟨text, rfl⟩ := Selection.ofTexts_eq_error h
  rfl

/-- The directory and the globs are looked at before anything is printed. -/
theorem clean_run (c : ScanCommand) (rules : Rules) (quiet : Bool) : (c.run rules quiet).Clean :=
  Action.reads_getFiles.bind_clean fun _ =>
    (Action.reads_check fun _ => isAboutDocument_of_start).bind_clean fun _ =>
      (Action.reads_check fun _ => isAboutDocument_of_ofTexts).bind_clean fun _ => c.clean_scanItems _ _ _ _

/-- A scan comes as far as its document iff it is feasible. -/
theorem proceeds_run_iff : (c.run rules quiet).Proceeds w ↔ c.Feasible w.host w.files := by
  unfold run Feasible
  rw [Action.proceeds_getFiles_bind, Action.proceeds_check_bind fun _ => isAboutDocument_of_start,
    ← Selection.exists_ofTexts_iff]
  simp only [Action.proceeds_check_bind fun _ => isAboutDocument_of_ofTexts, proceeds_scanItems_iff, start_eq_ok_iff]
  constructor
  · rintro ⟨place, ⟨hplace, entries, hentries⟩, selection, hselection, hwork⟩
    refine ⟨⟨selection, hselection⟩, place, entries, hplace, hentries, fun selection' h => ?_⟩
    cases hselection.symm.trans h
    exact hwork
  · rintro ⟨⟨selection, hselection⟩, place, entries, hplace, hentries, hwork⟩
    exact ⟨place, ⟨hplace, entries, hentries⟩, selection, hselection, hwork selection hselection⟩

/-- A file that fails is among the failures of a scan. -/
theorem get?_failures_of_error {selection : Selection} {analyze : String → ScanOutcome} {items : List WalkItem}
    {path : String} {fault : FileFault} (hp : selection.Takes c.walk.followLinks items path)
    (hf : analyze path = .error fault) :
    (c.sums selection analyze items).failures.get? path = some fault.message :=
  ScanStats.get?_failures_foldl_add hf (.inl (Selection.mem_candidates.2 hp))

/-- A scan that is feasible has sums, in which each file that fails is an entry; and writing its document is all that is
left to do. -/
theorem run_apply_of_feasible (h : c.Feasible w.host w.files) :
    ∃ place selection, ∃ stats : ScanStats, ∃ text status, w.files.resolve c.directory = .ok place ∧
      Selection.ofTexts c.includes c.excludes = .ok selection ∧
      c.run rules quiet w =
        (writeDocument c.document stats.toJson >>= fun _ => pure status) { w with output := w.output ++ text } ∧
      (c.json = true → text = stats.toJson.pretty ++ "\n") ∧
      ∀ path fault, selection.Takes c.walk.followLinks (w.files.walk c.walk place) path →
        c.analyze w.files rules (FileTree.pathOf place) path = .error fault →
        stats.failures.get? path = some fault.message := by
  obtain ⟨hglobs, place, entries, hplace, hentries, hwork⟩ := h
  obtain ⟨selection, hselection⟩ := Selection.exists_ofTexts_iff.2 hglobs
  have hstart := start_eq_ok_iff.2 ⟨hplace, entries, hentries⟩
  obtain ⟨w', hstats⟩ : ∃ w', c.stats quiet selection (c.analyze w.files rules (FileTree.pathOf place))
      (w.files.walk c.walk place) w = (.ok (c.sums selection (c.analyze w.files rules (FileTree.pathOf place))
        (w.files.walk c.walk place)), w') :=
    ⟨_, stats_apply_eq_ok_iff.2 ⟨hwork selection hselection, rfl, rfl⟩⟩
  have hrun : c.run rules quiet w = c.scanItems quiet selection (c.analyze w.files rules (FileTree.pathOf place))
      (w.files.walk c.walk place) w := by
    rw [run, Action.getFiles_bind_apply, hstart, hselection]
    rfl
  obtain ⟨text, hscan, htext⟩ := exists_text_of_stats hstats
  exact ⟨place, selection, _, text, _, hplace, hselection, hrun.trans hscan, htext, fun path fault hp hf =>
    get?_failures_of_error hp hf⟩

end ScanCommand

/-! ## Comparisons -/

namespace CoverageCommand

/-- What a comparison needs. What is in the tests has no part in it. -/
def Feasible (c : CoverageCommand) (config : Settings) (host : Host) (t : FileTree) : Prop :=
  (∃ repository, t.canonical c.repository = .ok repository) ∧
  ∃ catalog, Catalog.ofFile t c.catalog = .ok catalog ∧ (∀ name ∈ c.modules, catalog.get? name ≠ none) ∧
    ∀ modules, catalog.Selects c.modules modules → host.CanWork c.workers (modules.countP fun m =>
      ¬ (m.name ∈ (c.settings config).skipModules ∨ m.fullName ∈ (c.settings config).skipModules))

variable {c : CoverageCommand} {config : Settings} {rules : Rules} {quiet : Bool} {w : World}

theorem reports_report (c : CoverageCommand) (s : CoverageSummary) (quiet : Bool) : (c.report s quiet).Reports := by
  intro w fault h
  rw [report_apply] at h
  exact Action.reports_writeDocument _ _ _ fault h

/-- The summary is there before anything of it is printed. -/
theorem clean_run (c : CoverageCommand) (config : Settings) (rules : Rules) (quiet : Bool) :
    (c.run config rules quiet).Clean :=
  (c.reads_summary rules _).bind_clean fun s =>
    ((c.reports_report s quiet).bind fun _ => Action.reports_pure _).clean

/-- A comparison comes as far as its document iff it is feasible. -/
theorem proceeds_run_iff : (c.run config rules quiet).Proceeds w ↔ c.Feasible config w.host w.files := by
  have hsummary : (∃ s w', c.summary rules (c.settings config) w = (.ok s, w')) ↔ c.Feasible config w.host w.files :=
    exists_summary_iff
  rw [← hsummary, run, (c.reads_summary rules _).proceeds_bind_iff]
  constructor
  · rintro ⟨s, h, -⟩
    exact ⟨s, _, Prod.ext h rfl⟩
  · rintro ⟨s, w', h⟩
    exact ⟨s, congrArg Prod.fst h, (c.reports_report s quiet).bind (fun _ => Action.reports_pure _) w⟩

/-- A module without a report is among the errors of a comparison, unless it is skipped. -/
theorem mem_errors_ofModules {modules : List ModuleInfo} {skip : List String}
    {report : ModuleInfo → Except String Report} {m : ModuleInfo} {message : String} (hm : m ∈ modules)
    (hs : ¬ (m.name ∈ skip ∨ m.fullName ∈ skip)) (hr : report m = .error message) :
    ⟨m.identifier, message⟩ ∈ (CoverageSummary.ofModules modules skip report).errors := by
  rw [(CoverageSummary.accounts_ofModules modules skip report).errors, List.mem_filterMap]
  have he : m.entry skip (.error message) = .error ⟨m.identifier, message⟩ := if_neg hs
  exact ⟨m.entry skip (report m), List.mem_map_of_mem hm, by rw [hr, he]; rfl⟩

/-- A comparison that is feasible has a summary, in which each module without a report is an entry unless it is skipped;
and writing its document is all that is left to do. -/
theorem run_apply_of_feasible (h : c.Feasible config w.host w.files) :
    ∃ s : CoverageSummary, ∃ text status, c.run config rules quiet w =
        (writeDocument c.document s.toJson >>= fun _ => pure status) { w with output := w.output ++ text } ∧
      (c.json = true → text = s.toJson.pretty ++ "\n") ∧
      ∃ repository catalog modules, w.files.canonical c.repository = .ok repository ∧
        Catalog.ofFile w.files c.catalog = .ok catalog ∧ catalog.Selects c.modules modules ∧
        ∀ m ∈ modules,
          ¬ (m.name ∈ (c.settings config).skipModules ∨ m.fullName ∈ (c.settings config).skipModules) →
          ∀ message, moduleReport w.files rules (.ofList (c.settings config).excludeProperties)
            (Path.join repository (c.settings config).testRoot) m = .error message →
            ⟨m.identifier, message⟩ ∈ s.errors := by
  obtain ⟨s, w', hs⟩ := (@exists_summary_iff c rules _ w).2 h
  have hrun := run_apply_of_summary hs quiet
  obtain ⟨-, repository, catalog, modules, hr, hc, hm, -, rfl⟩ := summary_apply_eq_ok_iff.1 hs
  exact ⟨_, _, _, hrun, fun hj => if_pos hj, repository, catalog, modules, hr, hc, hm, fun m hmem hskip message he =>
    mem_errors_ofModules hmem hskip he⟩

end CoverageCommand

/-! ## Runs -/

/-- What an analysis prints. -/
def AnalyzeCommand.text (c : AnalyzeCommand) (results : ResultMap) : String :=
  if c.json then results.render ++ "\n" else unlines (results.lines "")

theorem AnalyzeCommand.run_apply (c : AnalyzeCommand) (rules : Rules) (w : World) :
    c.run rules w = match analyzeFile w.files rules ⟨c.module⟩ c.file with
      | .ok results => (.ok 0, { w with output := w.output ++ c.text results })
      | .error e => (.error (.file e), w) := by
  unfold run text
  rw [Action.getFiles_bind_apply]
  cases analyzeFile w.files rules ⟨c.module⟩ c.file with
  | error e => rfl
  | ok results =>
    cases c.json with
    | true => rfl
    | false => exact Action.bind_apply_of_ok (Action.prints_forM_printLine (results.lines "") w)

namespace Command

/-- What a command needs. Only an analysis needs that a test can be analysed. -/
def Feasible (c : Command) (config : Settings) (rules : Rules) (host : Host) (t : FileTree) : Prop :=
  match c with
  | .analyze c => ∃ results, analyzeFile t rules ⟨c.module⟩ c.file = .ok results
  | .scan c => c.Feasible host t
  | .coverage c => c.Feasible config host t

theorem clean_run (c : Command) (config : Settings) (rules : Rules) (quiet : Bool) : (c.run config rules quiet).Clean := by
  cases c with
  | analyze c =>
    intro w fault h _
    change ((c.run rules w).1 = _) at h
    change (c.run rules w).2 = w
    rw [c.run_apply] at h ⊢
    cases hr : analyzeFile w.files rules ⟨c.module⟩ c.file with
    | ok results => rw [hr] at h; cases h
    | error e => rfl
  | scan c => exact c.clean_run rules quiet
  | coverage c => exact c.clean_run config rules quiet

theorem proceeds_run_iff {c : Command} {config : Settings} {rules : Rules} {quiet : Bool} {w : World} :
    (c.run config rules quiet).Proceeds w ↔ c.Feasible config rules w.host w.files := by
  cases c with
  | analyze c =>
    change (∀ fault, (c.run rules w).1 = .error fault → _) ↔ ∃ results, _
    rw [c.run_apply]
    cases analyzeFile w.files rules ⟨c.module⟩ c.file with
    | ok results => simp
    | error e => simp [Fault.isAboutDocument]
  | scan c => exact ScanCommand.proceeds_run_iff
  | coverage c => exact CoverageCommand.proceeds_run_iff

/-- The fault of a command that is feasible comes from writing its document. -/
theorem writeJson_of_feasible (w : World) {c : Command} {config : Settings} {rules : Rules} {quiet : Bool}
    {fault : Fault} (h : c.Feasible config rules w.host w.files) (hf : (c.run config rules quiet w).1 = .error fault) :
    ∃ path value text, c.document? = some path ∧
      (writeJson path value { w with output := w.output ++ text }).1 = .error fault := by
  cases c with
  | analyze c =>
    obtain ⟨results, hr⟩ := h
    change (c.run rules w).1 = _ at hf
    rw [c.run_apply, hr] at hf
    cases hf
  | scan c =>
    obtain ⟨_, _, stats, text, status, -, -, hrun, -⟩ := @ScanCommand.run_apply_of_feasible c rules quiet w h
    exact Action.writeJson_of_writeDocument stats.toJson status text (hrun ▸ hf)
  | coverage c =>
    obtain ⟨s, text, status, hrun, -⟩ := @CoverageCommand.run_apply_of_feasible c config rules quiet w h
    exact Action.writeJson_of_writeDocument s.toJson status text (hrun ▸ hf)

end Command

namespace Invocation

/-- What a run needs: settings that give rules, and what its command needs. -/
def Feasible (i : Invocation) (host : Host) (t : FileTree) : Prop :=
  ∃ config rules, i.readSettings t = .ok config ∧ config.rules = .ok rules ∧ i.command.Feasible config rules host t

variable {i : Invocation} {w : World} {fault : Fault}

theorem isAboutDocument_of_readSettings {t : FileTree} (h : i.readSettings t = .error fault) :
    fault.isAboutDocument = false := by
  unfold readSettings at h
  split at h
  · cases h
  · obtain ⟨e, -, rfl⟩ := Action.mapError_eq_error_iff.1 h
    rfl

theorem isAboutDocument_of_rules {config : Settings} (h : config.rules.mapError Fault.rules = .error fault) :
    fault.isAboutDocument = false := by
  obtain ⟨e, -, rfl⟩ := Action.mapError_eq_error_iff.1 h
  rfl

/-- Settings and rules are looked at before the command begins. -/
theorem clean_action (i : Invocation) : i.action.Clean :=
  Action.reads_getFiles.bind_clean fun _ =>
    (Action.reads_check fun _ => isAboutDocument_of_readSettings).bind_clean fun config =>
      (Action.reads_check fun _ => isAboutDocument_of_rules).bind_clean fun rules =>
        i.command.clean_run config rules i.quiet

/-- A run comes as far as its document iff it is feasible. -/
theorem proceeds_action_iff : i.action.Proceeds w ↔ i.Feasible w.host w.files := by
  unfold action Feasible
  rw [Action.proceeds_getFiles_bind, Action.proceeds_check_bind fun _ => isAboutDocument_of_readSettings]
  simp only [Action.proceeds_check_bind fun _ => isAboutDocument_of_rules, Action.mapError_eq_ok_iff,
    Command.proceeds_run_iff]
  constructor
  · rintro ⟨config, hs, rules, hr, h⟩
    exact ⟨config, rules, hs, hr, h⟩
  · rintro ⟨config, rules, hs, hr, h⟩
    exact ⟨config, hs, rules, hr, h⟩

theorem action_of_settings (w : World) {config : Settings} {rules : Rules} (hs : i.readSettings w.files = .ok config)
    (hr : config.rules = .ok rules) : i.action w = i.command.run config rules i.quiet w := by
  rw [action, Action.getFiles_bind_apply, hs, Action.check_ok, pure_bind, hr]
  rfl

end Invocation

theorem Outcome.ending_ofResult {r : Except Fault Nat × World} {fault : Fault} :
    (Outcome.ofResult r).ending = .failed fault ↔ r.1 = .error fault := by
  rcases r with ⟨_ | _, _⟩ <;> simp [ofResult]

theorem Outcome.output_ofResult (r : Except Fault Nat × World) : (Outcome.ofResult r).output = r.2.output := by
  rcases r with ⟨_ | _, _⟩ <;> rfl

theorem Outcome.files_ofResult (r : Except Fault Nat × World) : (Outcome.ofResult r).files = r.2.files := by
  rcases r with ⟨_ | _, _⟩ <;> rfl

/-- **A fault leaves nothing behind.** Let arguments ask for something. If the run ends with a fault that is not about
the document, nothing is printed, all files are as they were, and the status is one. A fault about the document comes
from writing it. The runs that end with another one are those that are not feasible, and for a scan or a comparison that
does not depend on any test: with all else in order, what was found is printed and written, and each file or module that
fails is an entry in it. -/
theorem fatal_leaves_nothing (t : FileTree) (args : List String) (host : Host) (i : Invocation)
    (accepted : Invocation.ofArguments? args = some i) :
    (∀ fault, (run t args host).ending = .failed fault → fault.isAboutDocument = false →
      (run t args host).output = "" ∧ (run t args host).files = t ∧ (run t args host).ending.status = 1) ∧
    (∀ fault, (run t args host).ending = .failed fault → fault.isAboutDocument = true →
      ∃ path value text, i.command.document? = some path ∧
        (writeJson path value { host, files := t, output := text }).1 = .error fault) ∧
    ((∃ fault, (run t args host).ending = .failed fault ∧ fault.isAboutDocument = false) ↔ ¬ i.Feasible host t) ∧
    (∀ c config rules, i.command = .scan c → i.readSettings t = .ok config → config.rules = .ok rules →
      c.Feasible host t → ∃ place selection, ∃ stats : ScanStats, ∃ text status,
        t.resolve c.directory = .ok place ∧ Selection.ofTexts c.includes c.excludes = .ok selection ∧
        run t args host = .ofResult ((writeDocument c.document stats.toJson >>= fun _ => pure status)
          { host, files := t, output := text }) ∧
        (c.json = true → text = stats.toJson.pretty ++ "\n") ∧
        ∀ path fault, selection.Takes c.walk.followLinks (t.walk c.walk place) path →
          c.analyze t rules (FileTree.pathOf place) path = .error fault →
          stats.failures.get? path = some fault.message) ∧
    ∀ c config rules, i.command = .coverage c → i.readSettings t = .ok config → config.rules = .ok rules →
      c.Feasible config host t → ∃ s : CoverageSummary, ∃ text status,
        run t args host = .ofResult ((writeDocument c.document s.toJson >>= fun _ => pure status)
          { host, files := t, output := text }) ∧
        (c.json = true → text = s.toJson.pretty ++ "\n") ∧
        ∃ repository catalog modules, t.canonical c.repository = .ok repository ∧
          Catalog.ofFile t c.catalog = .ok catalog ∧ catalog.Selects c.modules modules ∧
          ∀ m ∈ modules,
            ¬ (m.name ∈ (c.settings config).skipModules ∨ m.fullName ∈ (c.settings config).skipModules) →
            ∀ message, moduleReport t rules (.ofList (c.settings config).excludeProperties)
              (Path.join repository (c.settings config).testRoot) m = .error message →
              ⟨m.identifier, message⟩ ∈ s.errors := by
  have hrun : run t args host = .ofResult (i.action { host, files := t }) := by rw [run, accepted]; rfl
  rw [hrun]
  have hproceeds := @Invocation.proceeds_action_iff i { host, files := t }
  refine ⟨fun fault h hd => ?_, fun fault h hd => ?_, ?_, ?_, ?_⟩
  · rw [Outcome.output_ofResult, Outcome.files_ofResult,
      i.clean_action { host, files := t } fault (Outcome.ending_ofResult.1 h) hd, h]
    exact ⟨rfl, rfl, rfl⟩
  · rw [Outcome.ending_ofResult] at h
    have hfeasible : i.Feasible host t := by
      refine hproceeds.1 fun other ho => ?_
      cases h.symm.trans ho
      exact hd
    obtain ⟨config, rules, hs, hr, hfeasible⟩ := hfeasible
    rw [i.action_of_settings { host, files := t } hs hr] at h
    obtain ⟨path, value, text, hpath, hw⟩ := Command.writeJson_of_feasible { host, files := t } hfeasible h
    exact ⟨path, value, text, hpath, by simpa using hw⟩
  · rw [← hproceeds]
    simp only [Outcome.ending_ofResult, Action.Proceeds]
    constructor
    · rintro ⟨fault, h, hd⟩ hp
      rw [hp fault h] at hd
      cases hd
    · intro h
      simpa using h
  · intro c config rules hc hs hr hfeasible
    rw [i.action_of_settings { host, files := t } hs hr, hc]
    obtain ⟨place, selection, stats, text, status, hplace, hselection, hscan, htext, hfailures⟩ :=
      @ScanCommand.run_apply_of_feasible c rules i.quiet { host, files := t } hfeasible
    refine ⟨place, selection, stats, text, status, hplace, hselection, ?_, htext, hfailures⟩
    exact congrArg Outcome.ofResult (hscan.trans (by rw [String.empty_append]))
  · intro c config rules hc hs hr hfeasible
    rw [i.action_of_settings { host, files := t } hs hr, hc]
    obtain ⟨s, text, status, hcoverage, htext, hentries⟩ :=
      @CoverageCommand.run_apply_of_feasible c config rules i.quiet { host, files := t } hfeasible
    refine ⟨s, text, status, ?_, htext, hentries⟩
    exact congrArg Outcome.ofResult (hcoverage.trans (by rw [String.empty_append]))

/-- A scan of a directory that is not there. -/
def missingScan : List String := ["scan", "missing", "--module", "FooCheck", "--output-json", "out/results.json"]

/-- A scan of the current directory for test files. -/
def plainScan : List String := ["scan", ".", "--module", "FooCheck", "--include", "**/*Test.java"]

theorem exists_rules_default : ∃ rules, ({} : Settings).rules = .ok rules := by
  have h : ({} : Settings).rules.toBool = true := by decide +kernel
  cases hr : ({} : Settings).rules with
  | ok rules => exact ⟨rules, rfl⟩
  | error e => rw [hr] at h; cases h

/-- The directory is missing: nothing is printed, and no directory is made for the document. It is there, with a file
that is no text: no fault. -/
theorem fatal_leaves_nothing_missingScan :
    (run ScanCommand.mixedTree missingScan).ending = .failed (.noPath "missing") ∧
    (run ScanCommand.mixedTree missingScan).output = "" ∧
    (run ScanCommand.mixedTree missingScan).files = ScanCommand.mixedTree ∧
    ¬ ∃ fault, (run ScanCommand.mixedTree plainScan).ending = .failed fault ∧ fault.isAboutDocument = false := by
  have hmissing : Invocation.ofArguments? missingScan = some ⟨none, false, .scan
      ⟨"missing", "FooCheck", [], [], none, ⟨false, false, none, false⟩, false, some "out/results.json", false⟩⟩ := by
    decide +kernel
  have hplain : Invocation.ofArguments? plainScan = some ⟨none, false, .scan
      ⟨".", "FooCheck", ["**/*Test.java"], [], none, ⟨false, false, none, false⟩, false, none, false⟩⟩ := by
    decide +kernel
  have hending : (run ScanCommand.mixedTree missingScan).ending = .failed (.noPath "missing") := by decide +kernel
  obtain ⟨hfault, -⟩ := fatal_leaves_nothing ScanCommand.mixedTree missingScan {} _ hmissing
  obtain ⟨houtput, hfiles, -⟩ := hfault _ hending rfl
  refine ⟨hending, houtput, hfiles, ?_⟩
  obtain ⟨-, -, hfatal, -⟩ := fatal_leaves_nothing ScanCommand.mixedTree plainScan {} _ hplain
  obtain ⟨rules, hrules⟩ := exists_rules_default
  have hplace : ScanCommand.mixedTree.resolve "." = .ok [] := eq_ok_of_toOption (by decide +kernel)
  have hglobs : ∀ text ∈ ["**/*Test.java"] ++ [], Glob.ofString? text true ≠ none := by decide +kernel
  intro hfailed
  exact hfatal.1 hfailed ⟨{}, rules, rfl, hrules, hglobs, [], _, hplace, rfl, fun _ _ => ⟨by simp, fun _ _ => rfl⟩⟩

end ConfigCoverage
