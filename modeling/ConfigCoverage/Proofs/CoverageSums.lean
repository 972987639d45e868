import ConfigCoverage.Command.Coverage
import ConfigCoverage.Proofs.Effects
import ConfigCoverage.TestCase

/-!
# Every module is accounted for

A comparison goes through the modules that are selected. Each of them has one entry: it is skipped, or it has a report,
or it has an error. First the modules that are skipped are set aside; then what came of each of the others is put to the
lists and counted. In the end the three lists are the entries, each list in the order of the modules, and the sums are
over all of them.

* `Catalog.select_eq_ok_iff`: which modules are selected, and that every name must be known.
* `moduleEntry`: what becomes of a module, by the module and the files alone.
* `CoverageSummary.SortedOut.setAside`, `CoverageSummary.SortedOut.foldl`: what the first loop keeps, in a step and in a
  run.
* `CoverageSummary.Accounts.add`, `CoverageSummary.Accounts.addAll`: what the second loop keeps.
* `CoverageSummary.accounts_ofModules`: the lists and the sums after both loops.
* `CoverageCommand.summary_apply_eq_ok_iff`: when there is a summary, and of what.
* `CoverageCommand.accounting`: all of it for a comparison.
-/

namespace ConfigCoverage

/-! ## Selection -/

namespace Catalog

/-- The modules that some names select: all in their order if there are no names, and else one for each name. -/
def Selects (c : Catalog) (names : List String) (modules : List ModuleInfo) : Prop :=
  if names = [] then modules = c.modules else modules.map some = names.map c.get?

/-- One name more selects one module more, if it is known. -/
theorem getAll_cons_eq_ok_iff {c : Catalog} {name : String} {names : List String} {modules : List ModuleInfo} :
    c.getAll (name :: names) = .ok modules ↔
      ∃ m rest, c.get? name = some m ∧ c.getAll names = .ok rest ∧ modules = m :: rest := by
  cases hm : c.get? name with
  | none => simp [getAll, hm]
  | some m =>
    cases hr : c.getAll names with
    | error e => simp [getAll, hm, hr, Except.map]
    | ok rest => simp [getAll, hm, hr, Except.map, eq_comm (a := modules)]

theorem getAll_eq_ok_iff {c : Catalog} {names : List String} {modules : List ModuleInfo} :
    c.getAll names = .ok modules ↔ modules.map some = names.map c.get? := by
  induction names generalizing modules with
  | nil => simp [getAll, eq_comm (b := modules)]
  | cons name names ih =>
    rw [getAll_cons_eq_ok_iff, List.map_cons, List.map_eq_cons_iff]
    constructor
    · rintro ⟨m, rest, hm, hr, rfl⟩
      exact ⟨m, rest, rfl, hm.symm, ih.1 hr⟩
    · rintro ⟨m, rest, rfl, hm, hr⟩
      exact ⟨m, rest, hm.symm, ih.2 hr, rfl⟩

theorem select_eq_ok_iff {c : Catalog} {names : List String} {modules : List ModuleInfo} :
    c.select names = .ok modules ↔ c.Selects names modules := by
  unfold select Selects
  by_cases h : names = []
  · simp [h, eq_comm]
  · simp [h, getAll_eq_ok_iff]

theorem exists_map_some_eq_iff {c : Catalog} {names : List String} :
    (∃ modules : List ModuleInfo, modules.map some = names.map c.get?) ↔ ∀ name ∈ names, c.get? name ≠ none := by
  induction names with
  | nil => simp
  | cons name names ih =>
    rw [List.forall_mem_cons, ← ih, Option.ne_none_iff_exists']
    constructor
    · rintro ⟨modules, h⟩
      obtain ⟨m, rest, rfl, hm, hr⟩ := List.map_eq_cons_iff.1 h
      exact ⟨⟨m, hm.symm⟩, rest, hr⟩
    · rintro ⟨⟨m, hm⟩, rest, hr⟩
      exact ⟨m :: rest, by rw [List.map_cons, List.map_cons, hm, hr]⟩

/-- Names select the modules in one way only. -/
theorem Selects.unique {c : Catalog} {names : List String} {modules modules' : List ModuleInfo}
    (h : c.Selects names modules) (h' : c.Selects names modules') : modules = modules' :=
  Except.ok.inj ((select_eq_ok_iff.2 h).symm.trans (select_eq_ok_iff.2 h'))

/-- Some modules are selected iff every name is known. -/
theorem exists_selects_iff {c : Catalog} {names : List String} :
    (∃ modules, c.Selects names modules) ↔ ∀ name ∈ names, c.get? name ≠ none := by
  unfold Selects
  by_cases h : names = []
  · simp [h]
  · simp only [h, if_false, exists_map_some_eq_iff]

theorem getAll_eq_error {c : Catalog} {names : List String} {fault : Fault} (h : c.getAll names = .error fault) :
    ∃ name ∈ names, fault = .unknownModule name ∧ c.get? name = none := by
  induction names with
  | nil => cases h
  | cons name names ih =>
    rw [getAll] at h
    cases hm : c.get? name with
    | none =>
      rw [hm] at h
      cases h
      exact ⟨name, List.mem_cons_self, rfl, hm⟩
    | some m =>
      cases hr : c.getAll names with
      | error e =>
        simp only [hm, hr, Except.map, Except.error.injEq] at h
        obtain ⟨unknown, hu, hf⟩ := ih (h ▸ hr)
        exact ⟨unknown, List.mem_cons_of_mem name hu, hf⟩
      | ok modules => simp [hm, hr, Except.map] at h

theorem select_eq_error {c : Catalog} {names : List String} {fault : Fault} (h : c.select names = .error fault) :
    ∃ name ∈ names, fault = .unknownModule name ∧ c.get? name = none := by
  unfold select at h
  by_cases hn : names.isEmpty = true
  · rw [if_pos hn] at h
    cases h
  · rw [if_neg hn] at h
    exact getAll_eq_error h

end Catalog

/-! ## Entries -/

theorem ModuleInfo.isSkipped_eq_true_iff {m : ModuleInfo} {skip : List String} :
    m.isSkipped skip = true ↔ m.name ∈ skip ∨ m.fullName ∈ skip := by
  simp only [isSkipped, List.any_eq_true, Bool.or_eq_true, beq_iff_eq]
  constructor
  · rintro ⟨name, hn, rfl | rfl⟩
    · exact .inl hn
    · exact .inr hn
  · rintro (h | h)
    · exact ⟨_, h, .inl rfl⟩
    · exact ⟨_, h, .inr rfl⟩

/-- What becomes of a module in a comparison. -/
inductive ModuleEntry where
  | skipped (identifier : String)
  | report (r : Report)
  | error (e : ModuleError)

namespace ModuleEntry

/-- The identifier, if the module is skipped. -/
def skipped? : ModuleEntry → Option String
  | skipped identifier => some identifier
  | _ => none

/-- The report, if there is one. -/
def report? : ModuleEntry → Option Report
  | report r => some r
  | _ => none

/-- The error, if there is one. -/
def error? : ModuleEntry → Option ModuleError
  | error e => some e
  | _ => none

end ModuleEntry

/-- The entry of a module that is looked at. -/
def ModuleInfo.checked (m : ModuleInfo) : Except String Report → ModuleEntry
  | .ok r => .report r
  | .error message => .error ⟨m.identifier, message⟩

/-- The entry of a module, given which modules to skip and the report of a module. -/
def ModuleInfo.entry (m : ModuleInfo) (skip : List String) (report : Except String Report) : ModuleEntry :=
  if m.name ∈ skip ∨ m.fullName ∈ skip then .skipped m.identifier else m.checked report

/-- The entry of a module in a comparison. It depends on no other module. -/
def moduleEntry (t : FileTree) (rules : Rules) (settings : CoverageSettings) (repository : String) (m : ModuleInfo) :
    ModuleEntry :=
  m.entry settings.skipModules
    (moduleReport t rules (.ofList settings.excludeProperties) (Path.join repository settings.testRoot) m)

theorem Report.isComplete_eq_decide (r : Report) : r.isComplete = decide (r.untested = []) := by
  rw [Bool.eq_iff_iff, Report.isComplete, List.isEmpty_iff, decide_eq_true_iff]

namespace CoverageSummary

/-- The lists of a summary are some entries, sorted by what they are and otherwise in their order, and its counters are
over the reports. -/
structure Accounts (s : CoverageSummary) (entries : List ModuleEntry) : Prop where
  skipped : s.skipped = entries.filterMap ModuleEntry.skipped?
  reports : s.reports = entries.filterMap ModuleEntry.report?
  errors : s.errors = entries.filterMap ModuleEntry.error?
  complete : s.complete = s.reports.countP fun r => r.untested = []
  incomplete : s.incomplete = s.reports.countP fun r => r.untested ≠ []

variable {s : CoverageSummary} {entries : List ModuleEntry}

/-- What came of one module more adds to one of two lists, and to one of two counters if it is a report. -/
theorem Accounts.add (h : s.Accounts entries) (m : ModuleInfo) (outcome : Except String Report) :
    (s.add m outcome).Accounts (entries ++ [m.checked outcome]) := by
  obtain ⟨hskipped, hreports, herrors, hcomplete, hincomplete⟩ := h
  cases outcome with
  | error message =>
    refine ⟨?_, ?_, ?_, hcomplete, hincomplete⟩
    · simpa [CoverageSummary.add, ModuleInfo.checked, List.filterMap_cons, ModuleEntry.skipped?] using hskipped
    · simpa [CoverageSummary.add, ModuleInfo.checked, List.filterMap_cons, ModuleEntry.report?] using hreports
    · simpa [CoverageSummary.add, ModuleInfo.checked, List.filterMap_cons, ModuleEntry.error?] using herrors
  | ok r =>
    by_cases hr : r.untested = []
    · have hadd : s.add m (.ok r) = { s with complete := s.complete + 1, reports := s.reports ++ [r] } := by
        rw [CoverageSummary.add, r.isComplete_eq_decide, decide_eq_true hr, if_pos rfl]
      rw [hadd]
      refine ⟨?_, ?_, ?_, ?_, ?_⟩
      · simpa [ModuleInfo.checked, List.filterMap_cons, ModuleEntry.skipped?] using hskipped
      · simpa [ModuleInfo.checked, List.filterMap_cons, ModuleEntry.report?] using hreports
      · simpa [ModuleInfo.checked, List.filterMap_cons, ModuleEntry.error?] using herrors
      · simpa [List.countP_append, hr] using hcomplete
      · simpa [List.countP_append, hr] using hincomplete
    · have hadd : s.add m (.ok r) = { s with incomplete := s.incomplete + 1, reports := s.reports ++ [r] } := by
        rw [CoverageSummary.add, r.isComplete_eq_decide, decide_eq_false hr, if_neg (by simp)]
      rw [hadd]
      refine ⟨?_, ?_, ?_, ?_, ?_⟩
      · simpa [ModuleInfo.checked, List.filterMap_cons, ModuleEntry.skipped?] using hskipped
      · simpa [ModuleInfo.checked, List.filterMap_cons, ModuleEntry.report?] using hreports
      · simpa [ModuleInfo.checked, List.filterMap_cons, ModuleEntry.error?] using herrors
      · simpa [List.countP_append, hr] using hcomplete
      · simpa [List.countP_append, hr] using hincomplete

/-- The entries of modules that are looked at come after those that were there. -/
theorem Accounts.addAll (h : s.Accounts entries) (outcomes : List (ModuleInfo × Except String Report)) :
    (s.addAll outcomes).Accounts (entries ++ outcomes.map fun e => e.1.checked e.2) := by
  unfold CoverageSummary.addAll
  induction outcomes generalizing s entries with
  | nil => simpa using h
  | cons e outcomes ih =>
    rw [List.map_cons, List.append_cons]
    exact ih (h.add e.1 e.2)

/-- The modules `done` have been sorted out: those that are skipped are in the summary, and the others are left. -/
structure SortedOut (skip : List String) (done : List ModuleInfo) (p : CoverageSummary × List ModuleInfo) : Prop where
  summary : p.1.Accounts ((done.filter (·.isSkipped skip)).map fun m => .skipped m.identifier)
  left : p.2 = done.filter fun m => !m.isSkipped skip

variable {skip : List String} {done : List ModuleInfo} {p : CoverageSummary × List ModuleInfo}

theorem SortedOut.setAside (h : SortedOut skip done p) (m : ModuleInfo) :
    SortedOut skip (done ++ [m]) (CoverageSummary.setAside skip p m) := by
  obtain ⟨⟨hskipped, hreports, herrors, hcomplete, hincomplete⟩, hleft⟩ := h
  unfold CoverageSummary.setAside
  cases hm : m.isSkipped skip with
  | true =>
    refine ⟨⟨?_, ?_, ?_, hcomplete, hincomplete⟩, ?_⟩
    · simpa [hm, List.filterMap_cons, ModuleEntry.skipped?] using hskipped
    · simpa [hm, List.filterMap_cons, ModuleEntry.report?] using hreports
    · simpa [hm, List.filterMap_cons, ModuleEntry.error?] using herrors
    · simpa [hm] using hleft
  | false =>
    refine ⟨⟨?_, ?_, ?_, hcomplete, hincomplete⟩, ?_⟩
    · simpa [hm] using hskipped
    · simpa [hm] using hreports
    · simpa [hm] using herrors
    · simpa [hm] using hleft

theorem SortedOut.foldl (h : SortedOut skip done p) (modules : List ModuleInfo) :
    SortedOut skip (done ++ modules) (modules.foldl (CoverageSummary.setAside skip) p) := by
  induction modules generalizing done p with
  | nil => simpa using h
  | cons m modules ih =>
    rw [List.append_cons]
    exact ih (h.setAside m)

theorem sortedOut_sortOut (skip : List String) (modules : List ModuleInfo) :
    SortedOut skip modules (sortOut skip modules) := by
  have hnil : SortedOut skip [] ({}, []) := ⟨⟨rfl, rfl, rfl, rfl, rfl⟩, rfl⟩
  exact hnil.foldl modules

/-- The summary over modules, given the report of each. -/
def ofModules (modules : List ModuleInfo) (skip : List String) (report : ModuleInfo → Except String Report) :
    CoverageSummary :=
  (sortOut skip modules).1.addAll ((sortOut skip modules).2.zip ((sortOut skip modules).2.map report))

/-- To sort entries by what they are, it is all the same whether the skipped ones come first. -/
theorem filterMap_entries {β : Type} (part : ModuleEntry → Option β) (modules : List ModuleInfo)
    (skip : List String) (report : ModuleInfo → Except String Report)
    (hpart : (∀ identifier, part (.skipped identifier) = none) ∨
      ∀ (m : ModuleInfo) (outcome : Except String Report), part (m.checked outcome) = none) :
    (((modules.filter (·.isSkipped skip)).map fun m => ModuleEntry.skipped m.identifier) ++
        (modules.filter fun m => !m.isSkipped skip).map fun m => m.checked (report m)).filterMap part =
      (modules.map fun m => m.entry skip (report m)).filterMap part := by
  induction modules with
  | nil => rfl
  | cons m modules ih =>
    by_cases hm : m.name ∈ skip ∨ m.fullName ∈ skip
    · have hs := ModuleInfo.isSkipped_eq_true_iff.2 hm
      have he : m.entry skip (report m) = .skipped m.identifier := if_pos hm
      simp only [List.filter_cons, hs, if_true, Bool.not_true, Bool.false_eq_true, if_false, List.map_cons,
        List.cons_append, List.filterMap_cons, he, ih]
    · have hs := Bool.eq_false_iff.2 (mt ModuleInfo.isSkipped_eq_true_iff.1 hm)
      have he : m.entry skip (report m) = m.checked (report m) := if_neg hm
      rw [List.map_cons, List.filterMap_cons, he, ← ih]
      simp only [List.filter_cons, hs, Bool.false_eq_true, if_false, Bool.not_false, if_true, List.map_cons,
        List.filterMap_append, List.filterMap_cons]
      rcases hpart with hnone | hnone
      · have hnil : ((modules.filter (·.isSkipped skip)).map fun m => ModuleEntry.skipped m.identifier).filterMap part =
            [] := by simp [hnone]
        rw [hnil, List.nil_append, List.nil_append]
      · rw [hnone]

/-- The lists of a summary are the entries of its modules, and its counters are over them. -/
theorem accounts_ofModules (modules : List ModuleInfo) (skip : List String)
    (report : ModuleInfo → Except String Report) :
    (ofModules modules skip report).Accounts (modules.map fun m => m.entry skip (report m)) := by
  obtain ⟨hsummary, hleft⟩ := sortedOut_sortOut skip modules
  have hzip : (sortOut skip modules).2.zip ((sortOut skip modules).2.map report) =
      (sortOut skip modules).2.map fun m => (m, report m) := List.map_prod_left_eq_zip.symm
  have h := hsummary.addAll ((sortOut skip modules).2.zip ((sortOut skip modules).2.map report))
  rw [hzip, List.map_map, hleft] at h
  obtain ⟨hskipped, hreports, herrors, hcomplete, hincomplete⟩ := h
  rw [ofModules, hzip, hleft]
  refine ⟨hskipped.trans ?_, hreports.trans ?_, herrors.trans ?_, hcomplete, hincomplete⟩
  · exact filterMap_entries _ modules skip report (.inr fun m outcome => by cases outcome <;> rfl)
  · exact filterMap_entries _ modules skip report (.inl fun _ => rfl)
  · exact filterMap_entries _ modules skip report (.inl fun _ => rfl)

/-- No entry is lost, and none stands in two lists. -/
theorem Accounts.length_eq (h : s.Accounts entries) :
    s.reports.length + s.errors.length + s.skipped.length = entries.length := by
  rw [h.skipped, h.reports, h.errors]
  clear h
  induction entries with
  | nil => rfl
  | cons e entries ih =>
    cases e <;>
      simp only [List.filterMap_cons, ModuleEntry.skipped?, ModuleEntry.report?, ModuleEntry.error?,
        List.length_cons] <;> omega

theorem Accounts.complete_add_incomplete (h : s.Accounts entries) : s.complete + s.incomplete = s.reports.length := by
  rw [h.complete, h.incomplete, List.length_eq_countP_add_countP (fun r => decide (r.untested = []))]
  simp

theorem Accounts.incomplete_pos_iff (h : s.Accounts entries) : 0 < s.incomplete ↔ ∃ r ∈ s.reports, r.untested ≠ [] := by
  rw [h.incomplete, List.countP_pos_iff]
  simp

theorem skipped_ofModules (modules : List ModuleInfo) (skip : List String)
    (report : ModuleInfo → Except String Report) :
    (ofModules modules skip report).skipped =
      (modules.filter fun m => m.name ∈ skip ∨ m.fullName ∈ skip).map ModuleInfo.identifier := by
  rw [(accounts_ofModules modules skip report).skipped, List.filterMap_map]
  induction modules with
  | nil => rfl
  | cons m modules ih =>
    by_cases hm : m.name ∈ skip ∨ m.fullName ∈ skip
    · have he : m.entry skip (report m) = .skipped m.identifier := if_pos hm
      rw [List.filterMap_cons, List.filter_cons, ih, if_pos (decide_eq_true hm), Function.comp_apply, he]
      rfl
    · have he : m.entry skip (report m) = m.checked (report m) := if_neg hm
      rw [List.filterMap_cons, List.filter_cons, ih, if_neg (by simpa using hm), Function.comp_apply, he]
      cases report m <;> rfl

theorem length_left (skip : List String) (modules : List ModuleInfo) :
    (sortOut skip modules).2.length = modules.countP fun m => ¬ (m.name ∈ skip ∨ m.fullName ∈ skip) := by
  rw [(sortedOut_sortOut skip modules).left, ← List.countP_eq_length_filter]
  refine List.countP_congr fun m _ => ?_
  rw [Bool.not_eq_true', decide_eq_true_iff, ← ModuleInfo.isSkipped_eq_true_iff, Bool.not_eq_true]

/-- One bit of the status stands for errors and one for untested properties. -/
theorem Accounts.testBit_status (h : s.Accounts entries) (failOnUntested failOnError : Bool) :
    ((s.status failOnUntested failOnError).testBit 0 = true ↔ failOnError = true ∧ s.errors ≠ []) ∧
    ((s.status failOnUntested failOnError).testBit 1 = true ↔
      failOnUntested = true ∧ ∃ r ∈ s.reports, r.untested ≠ []) ∧
    s.status failOnUntested failOnError < 4 := by
  have hstatus : s.status failOnUntested failOnError =
      (if failOnError = true ∧ s.errors ≠ [] then 1 else 0) |||
        (if failOnUntested = true ∧ 0 < s.incomplete then 2 else 0) := by simp [status]
  rw [hstatus, ← h.incomplete_pos_iff]
  by_cases he : failOnError = true ∧ s.errors ≠ []
  · by_cases hu : failOnUntested = true ∧ 0 < s.incomplete
    · rw [if_pos he, if_pos hu]
      exact ⟨iff_of_true (by decide) he, iff_of_true (by decide) hu, by decide⟩
    · rw [if_pos he, if_neg hu]
      exact ⟨iff_of_true (by decide) he, iff_of_false (by decide) hu, by decide⟩
  · by_cases hu : failOnUntested = true ∧ 0 < s.incomplete
    · rw [if_neg he, if_pos hu]
      exact ⟨iff_of_false (by decide) he, iff_of_true (by decide) hu, by decide⟩
    · rw [if_neg he, if_neg hu]
      exact ⟨iff_of_false (by decide) he, iff_of_false (by decide) hu, by decide⟩

/-- What is printed of a summary before its sums. -/
def details (s : CoverageSummary) (quiet : Bool) : String :=
  String.join (s.reports.map fun r => if quiet && r.isComplete then "" else r.text) ++
    String.join (s.errors.map fun e => "ERROR " ++ e.module ++ ": " ++ e.message ++ "\n")

theorem prints_print (s : CoverageSummary) (quiet : Bool) :
    (s.print quiet).Prints () (s.details quiet ++ if quiet then "" else s.line ++ "\n") := by
  have hreport : ∀ r : Report,
      (if quiet && r.isComplete then pure () else ConfigCoverage.print r.text : Action Unit).Prints ()
        (if quiet && r.isComplete then "" else r.text) := by
    intro r
    split
    · exact Action.prints_pure ()
    · exact Action.prints_print r.text
  have herrors := Action.prints_forM
    (fun e : ModuleError => Action.prints_printLine ("ERROR " ++ e.module ++ ": " ++ e.message)) s.errors
  rw [details, String.append_assoc]
  refine (Action.prints_forM hreport s.reports).bind (herrors.bind ?_)
  cases quiet with
  | true => exact Action.prints_pure ()
  | false => exact Action.prints_printLine s.line

end CoverageSummary

/-! ## Comparisons -/

namespace CoverageCommand

variable {c : CoverageCommand} {rules : Rules} {settings : CoverageSettings} {w w' : World} {s : CoverageSummary}

/-- A summary is only read off the files. -/
theorem reads_summary (c : CoverageCommand) (rules : Rules) (settings : CoverageSettings) :
    (c.summary rules settings).Reads := by
  unfold summary
  refine Action.reads_getFiles.bind fun t => (Action.reads_check_mapError fun _ => rfl).bind fun repository =>
    (Action.reads_check_mapError fun _ => rfl).bind fun catalog => (Action.reads_check ?_).bind fun selected =>
    (reads_resolveWorkers _).bind fun workers => (reads_mapWorkers _ _ _).bind fun outcomes => Action.reads_pure _
  intro fault h
  obtain ⟨name, -, rfl, -⟩ := Catalog.select_eq_error h
  rfl

/-- The summary of a comparison is over the modules that are selected. -/
theorem summary_apply_eq_ok_iff :
    c.summary rules settings w = (.ok s, w') ↔
      w' = w ∧ ∃ repository catalog modules, w.files.canonical c.repository = .ok repository ∧
        Catalog.ofFile w.files c.catalog = .ok catalog ∧ catalog.Selects c.modules modules ∧
        w.host.CanWork c.workers (modules.countP fun m =>
          ¬ (m.name ∈ settings.skipModules ∨ m.fullName ∈ settings.skipModules)) ∧
        s = .ofModules modules settings.skipModules
          (moduleReport w.files rules (.ofList settings.excludeProperties)
            (Path.join repository settings.testRoot)) := by
  unfold summary
  simp only [Action.getFiles_bind_apply, Action.check_bind_apply_eq_ok_iff, Action.mapError_eq_ok_iff,
    workers_bind_apply_eq_ok_iff, Action.pure_apply, CoverageSummary.length_left, Catalog.select_eq_ok_iff,
    Prod.mk.injEq, Except.ok.injEq]
  constructor
  · rintro ⟨repository, hr, catalog, hc, modules, hm, hw, rfl, rfl⟩
    exact ⟨rfl, repository, catalog, modules, hr, hc, hm, hw, rfl⟩
  · rintro ⟨rfl, repository, catalog, modules, hr, hc, hm, hw, rfl⟩
    exact ⟨repository, hr, catalog, hc, modules, hm, hw, rfl, rfl⟩

theorem accounts_of_summary (h : c.summary rules settings w = (.ok s, w')) : ∃ entries, s.Accounts entries := by
  obtain ⟨-, repository, catalog, modules, -, -, -, -, rfl⟩ := summary_apply_eq_ok_iff.1 h
  exact ⟨_, CoverageSummary.accounts_ofModules modules _ _⟩

/-- There is a summary iff the repository and the catalog are there, every name is known and the work can be done. -/
theorem exists_summary_iff :
    (∃ s w', c.summary rules settings w = (.ok s, w')) ↔
      (∃ repository, w.files.canonical c.repository = .ok repository) ∧
      ∃ catalog, Catalog.ofFile w.files c.catalog = .ok catalog ∧ (∀ name ∈ c.modules, catalog.get? name ≠ none) ∧
        ∀ modules, catalog.Selects c.modules modules → w.host.CanWork c.workers (modules.countP fun m =>
          ¬ (m.name ∈ settings.skipModules ∨ m.fullName ∈ settings.skipModules)) := by
  simp only [summary_apply_eq_ok_iff]
  constructor
  · rintro ⟨s, w', -, repository, catalog, modules, hr, hc, hm, hw, -⟩
    refine ⟨⟨repository, hr⟩, catalog, hc, Catalog.exists_selects_iff.1 ⟨modules, hm⟩, fun modules' hm' => ?_⟩
    rw [hm'.unique hm]
    exact hw
  · rintro ⟨⟨repository, hr⟩, catalog, hc, hn, hw⟩
    obtain ⟨modules, hm⟩ := Catalog.exists_selects_iff.2 hn
    exact ⟨_, w, rfl, repository, catalog, modules, hr, hc, hm, hw modules hm, rfl⟩

/-- What is printed of a summary. -/
def text (c : CoverageCommand) (s : CoverageSummary) (quiet : Bool) : String :=
  if c.json then s.toJson.pretty ++ "\n" else s.details quiet ++ if quiet then "" else s.line ++ "\n"

theorem report_apply (c : CoverageCommand) (s : CoverageSummary) (quiet : Bool) (w : World) :
    c.report s quiet w = writeDocument c.document s.toJson { w with output := w.output ++ c.text s quiet } := by
  unfold report text
  cases c.json with
  | true => exact Action.bind_apply_of_ok (Action.prints_printLine s.toJson.pretty w)
  | false => exact Action.bind_apply_of_ok (s.prints_print quiet w)

/-- A comparison prints its summary, writes it, and ends with its status. -/
theorem run_apply_of_summary {config : Settings} (h : c.summary rules (c.settings config) w = (.ok s, w'))
    (quiet : Bool) :
    c.run config rules quiet w =
      (writeDocument c.document s.toJson >>= fun _ => pure (s.status c.failOnUntested c.failOnError))
        { w with output := w.output ++ c.text s quiet } := by
  obtain ⟨rfl, -⟩ := summary_apply_eq_ok_iff.1 h
  rw [run, Action.bind_apply_of_ok h, Action.bind_apply, report_apply, Action.bind_apply]

/-- **Every selected module is accounted for.** There is no summary unless every selected name is in the catalog. In a
summary each selected module has one entry, which the module and the files determine: in its place among the skipped
ones, the reports or the errors. The counters are over the reports, the four sums that are printed add up to the number
of selected modules, and the status has a bit for errors and one for untested properties. -/
theorem accounting (c : CoverageCommand) (config : Settings) (rules : Rules) (quiet : Bool) (w : World) :
    ((∃ s w', c.summary rules (c.settings config) w = (.ok s, w')) ↔
      (∃ repository, w.files.canonical c.repository = .ok repository) ∧
      ∃ catalog, Catalog.ofFile w.files c.catalog = .ok catalog ∧ (∀ name ∈ c.modules, catalog.get? name ≠ none) ∧
        ∀ modules, catalog.Selects c.modules modules → w.host.CanWork c.workers (modules.countP fun m =>
          ¬ (m.name ∈ (c.settings config).skipModules ∨ m.fullName ∈ (c.settings config).skipModules))) ∧
    ∀ s w', c.summary rules (c.settings config) w = (.ok s, w') →
      ∃ repository catalog modules, w.files.canonical c.repository = .ok repository ∧
        Catalog.ofFile w.files c.catalog = .ok catalog ∧ catalog.Selects c.modules modules ∧
        s.Accounts (modules.map (moduleEntry w.files rules (c.settings config) repository)) ∧
        s.skipped = (modules.filter fun m => m.name ∈ (c.settings config).skipModules ∨
          m.fullName ∈ (c.settings config).skipModules).map ModuleInfo.identifier ∧
        s.complete + s.incomplete = s.reports.length ∧
        s.complete = (s.reports.countP fun r => r.untested = []) ∧
        s.complete + s.incomplete + s.errors.length + s.skipped.length = modules.length ∧
        ∃ text status, c.run config rules quiet w =
            (writeDocument c.document s.toJson >>= fun _ => pure status) { w with output := w.output ++ text } ∧
          (status.testBit 0 = true ↔ c.failOnError = true ∧ s.errors ≠ []) ∧
          (status.testBit 1 = true ↔ c.failOnUntested = true ∧ ∃ r ∈ s.reports, r.untested ≠ []) ∧
          status < 4 ∧
          (c.json = true → text = s.toJson.pretty ++ "\n") ∧
          (c.json = false → quiet = false → ∃ lines, text = lines ++
            (toString s.complete ++ " complete, " ++ toString s.incomplete ++ " incomplete, " ++
              toString s.errors.length ++ " errors, " ++ toString s.skipped.length ++ " skipped" ++ "\n")) := by
  refine ⟨exists_summary_iff, fun s w' h => ?_⟩
  obtain ⟨-, repository, catalog, modules, hr, hc, hm, -, hs⟩ := summary_apply_eq_ok_iff.1 h
  have haccounts : s.Accounts (modules.map (moduleEntry w.files rules (c.settings config) repository)) :=
    hs ▸ CoverageSummary.accounts_ofModules modules _ _
  have hlength := haccounts.length_eq
  rw [List.length_map] at hlength
  have hcomplete := haccounts.complete_add_incomplete
  obtain ⟨hbit₀, hbit₁, hlt⟩ := haccounts.testBit_status c.failOnUntested c.failOnError
  refine ⟨repository, catalog, modules, hr, hc, hm, haccounts, hs ▸ CoverageSummary.skipped_ofModules modules _ _,
    hcomplete, haccounts.complete, by omega, c.text s quiet, _, run_apply_of_summary h quiet, hbit₀, hbit₁, hlt,
    fun hj => ?_, fun hj hq => ?_⟩
  · rw [text, if_pos hj]
  · rw [text, if_neg (by simp [hj]), hq]
    exact ⟨s.details false, rfl⟩

/-- A catalog of two modules, and no test. -/
def catalogTree : FileTree where
  root := .directory [("modules.json", .file "[\x7b\"name\":\"Foo\"\x7d,\x7b\"name\":\"Bar\"\x7d]".toUTF8)]
  current := []

theorem ofFile_catalogTree :
    Catalog.ofFile catalogTree "modules.json" = .ok ⟨[⟨"Foo", "", []⟩, ⟨"Bar", "", []⟩]⟩ :=
  eq_ok_of_toOption (by decide +kernel)

/-- A comparison that names a module twice and skips it. -/
def repeatedComparison : CoverageCommand where
  catalog := "modules.json"
  repository := "."
  testRoot := none
  modules := ["Foo", "Bar", "Foo"]
  skip := ["Foo"]
  excludeProperties := []
  workers := none
  json := false
  document := none
  failOnUntested := true
  failOnError := true

/-- The module is skipped as often as it is named, and the other one is in one of the other lists. -/
theorem accounting_repeatedComparison :
    ∃ s w', repeatedComparison.summary .standard (repeatedComparison.settings {}) { files := catalogTree } = (.ok s, w') ∧
      s.skipped = ["Foo", "Foo"] ∧ s.complete + s.incomplete + s.errors.length = 1 := by
  obtain ⟨hexists, hsummary⟩ := accounting repeatedComparison {} .standard false { files := catalogTree }
  have hrepository : catalogTree.canonical "." = .ok "/" := eq_ok_of_toOption (by decide +kernel)
  obtain ⟨s, w', hs⟩ := hexists.2 ⟨⟨_, hrepository⟩, _, ofFile_catalogTree, by decide,
    fun _ _ => ⟨by decide, fun _ _ => rfl⟩⟩
  obtain ⟨repository, catalog, modules, -, hc, hm, -, hskipped, -, -, hsum, -⟩ := hsummary s w' hs
  cases ofFile_catalogTree.symm.trans hc
  have hmodules : modules = [⟨"Foo", "", []⟩, ⟨"Bar", "", []⟩, ⟨"Foo", "", []⟩] :=
    (List.map_inj_right fun _ _ => Option.some.inj).1 hm
  subst hmodules
  have hfoo : s.skipped = ["Foo", "Foo"] := hskipped.trans (by decide)
  rw [hfoo] at hsum
  exact ⟨s, w', hs, hfoo, Nat.add_right_cancel hsum⟩

end CoverageCommand

end ConfigCoverage
