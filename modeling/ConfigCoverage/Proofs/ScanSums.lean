import ConfigCoverage.Command.Scan
import ConfigCoverage.Proofs.Effects
import ConfigCoverage.Proofs.WalkPaths
import ConfigCoverage.TestCase

/-!
# Every file of a scan is accounted for

A scan takes the files among the items of a walk that its globs select, and each of them ends either with results or
with a failure. The sums follow from these two, whatever the walk came upon besides. The walk must not give a path
twice, which `FileTree.nodup_paths_walk` says of walks through well named trees.

* `Selection.mem_candidates`, `Selection.nodup_candidates`: which files are analysed, each of them once.
* `ScanStats.Accounts.add`: what counting one more file does.
* `ScanStats.accounts_ofOutcomes`, `ScanStats.prints_tally`: the sums over all files, and what is printed on the way.
* `ScanCommand.stats_apply_eq_ok_iff`: when there are sums, and over what.
* `ScanCommand.scan_accounting`: the sums and the status over the items of a walk.
-/

namespace ConfigCoverage

/-! ## Files -/

namespace Selection

/-- A path that a scan looks at: that of a file among the items, or of a link if links are followed, which some glob
includes and no glob excludes, and which belongs to a language. -/
def Takes (s : Selection) (followLinks : Bool) (items : List WalkItem) (path : String) : Prop :=
  (∃ isLink, WalkItem.file path isLink ∈ items ∧ (isLink = true → followLinks = true)) ∧
  (∃ g ∈ s.includes, g.accepts path = true) ∧ (∀ g ∈ s.excludes, g.accepts path = false) ∧
  ∃ language, Language.ofPath path = .ok language

variable {s : Selection} {followLinks : Bool} {items : List WalkItem} {path : String}

theorem accepts_eq_true_iff :
    s.accepts path = true ↔
      (∃ g ∈ s.includes, g.accepts path = true) ∧ (∀ g ∈ s.excludes, g.accepts path = false) ∧
      ∃ language, Language.ofPath path = .ok language := by
  have hlanguage : (Language.ofPath path).toBool = true ↔ ∃ language, Language.ofPath path = .ok language := by
    cases Language.ofPath path <;> simp [Except.toBool]
  simp only [accepts, Bool.and_eq_true, hlanguage, and_assoc, List.any_eq_true, Bool.not_eq_true',
    List.any_eq_false, Bool.not_eq_true]

theorem candidate?_eq_some_iff {item : WalkItem} :
    s.candidate? followLinks item = some path ↔
      ∃ isLink, item = .file path isLink ∧ (isLink = true → followLinks = true) ∧ s.accepts path = true := by
  cases item with
  | directory | failure => simp [candidate?]
  | file p isLink =>
    simp only [candidate?, Bool.and_eq_true, Bool.or_eq_true, Bool.not_eq_true', WalkItem.file.injEq]
    constructor
    · intro h
      obtain ⟨⟨hl, ha⟩, h⟩ := Option.ite_none_right_eq_some.1 h
      cases h
      exact ⟨isLink, ⟨rfl, rfl⟩, fun hi => hl.resolve_right (by simp [hi]), ha⟩
    · rintro ⟨_, ⟨rfl, rfl⟩, hl, ha⟩
      have hf : followLinks = true ∨ isLink = false := by
        cases isLink with
        | true => exact .inl (hl rfl)
        | false => exact .inr rfl
      rw [if_pos ⟨hf, ha⟩]

/-- The files to analyse are those that the scan takes. -/
theorem mem_candidates : path ∈ s.candidates followLinks items ↔ s.Takes followLinks items path := by
  unfold candidates Takes
  rw [List.mem_mergeSort, List.mem_filterMap, ← accepts_eq_true_iff]
  simp only [candidate?_eq_some_iff]
  constructor
  · rintro ⟨_, hi, isLink, rfl, hl, ha⟩
    exact ⟨⟨isLink, hi, hl⟩, ha⟩
  · rintro ⟨⟨isLink, hi, hl⟩, ha⟩
    exact ⟨_, hi, isLink, rfl, hl, ha⟩

theorem path?_of_candidate? {item : WalkItem} (h : s.candidate? followLinks item = some path) :
    item.path? = some path := by
  obtain ⟨isLink, rfl, -, -⟩ := candidate?_eq_some_iff.1 h
  rfl

/-- Each file is analysed once if no path comes twice. -/
theorem nodup_candidates (h : (items.filterMap WalkItem.path?).Nodup) : (s.candidates followLinks items).Nodup := by
  rw [candidates, (List.mergeSort_perm _ _).nodup_iff]
  unfold List.Nodup at h ⊢
  rw [List.pairwise_filterMap] at h ⊢
  exact h.imp fun h p hp q hq => h p (path?_of_candidate? hp) q (path?_of_candidate? hq)

end Selection

/-! ## Sums -/

/-- How many test cases there are in the results of files. -/
def testCaseCount : List (String × ResultMap) → Nat
  | [] => 0
  | (_, results) :: files => results.size + testCaseCount files

theorem testCaseCount_perm {files files' : List (String × ResultMap)} (h : files.Perm files') :
    testCaseCount files = testCaseCount files' := by
  induction h with
  | nil => rfl
  | cons e _ ih => rw [testCaseCount, testCaseCount, ih]
  | swap d e files => exact Nat.add_left_comm _ _ _
  | trans _ _ ih ih' => exact ih.trans ih'

namespace ScanStats

/-- The sums `s` are those over the files `done`, after a walk that failed `walkErrors` times. -/
structure Accounts (s : ScanStats) (walkErrors : Nat) (done : List (String × ScanOutcome)) : Prop where
  files : ∀ path results, s.files.get? path = some results ↔ (path, .ok results) ∈ done
  failures : ∀ path message, s.failures.get? path = some message ↔
    ∃ fault : FileFault, (path, .error fault) ∈ done ∧ fault.message = message
  processed : s.processed = done.length
  analyzed : s.analyzed = s.files.size
  processed_eq : s.processed = s.analyzed + s.failures.size
  errors : s.errors = s.failures.size + walkErrors
  testCases : s.testCases = testCaseCount s.files.entries

variable {s : ScanStats} {walkErrors : Nat} {done : List (String × ScanOutcome)}

theorem accounts_nil : ({ errors := walkErrors } : ScanStats).Accounts walkErrors [] where
  files := by simp
  failures := by simp
  processed := rfl
  analyzed := rfl
  processed_eq := rfl
  errors := by simp [SortedMap.size, SortedMap.empty]
  testCases := rfl

/-- A file that was not counted before adds to one of the two maps, and to the sums accordingly. -/
theorem Accounts.add (h : s.Accounts walkErrors done) {path : String} (hp : path ∉ done.map Prod.fst)
    (outcome : ScanOutcome) : (s.add path outcome).Accounts walkErrors (done ++ [(path, outcome)]) := by
  have absent : ∀ o, (path, o) ∉ done := fun o ho => hp (List.mem_map.2 ⟨(path, o), ho, rfl⟩)
  obtain ⟨hfiles, hfailures, hprocessed, hanalyzed, heq, herrors, htests⟩ := h
  cases outcome with
  | ok results =>
    have hnew : s.files.get? path = none := by
      refine Option.eq_none_iff_forall_ne_some.2 fun r hr => ?_
      exact absent _ ((hfiles path r).1 hr)
    have hsize : (s.files.put path results).size = s.files.size + 1 := SortedMap.size_put hnew
    have hperm : (s.files.put path results).entries.Perm ((path, results) :: s.files.entries) :=
      SortedMap.entries_put_perm hnew
    have hcount := testCaseCount_perm hperm
    rw [testCaseCount] at hcount
    refine ⟨fun path' r => ?_, fun path' message => ?_, ?_, ?_, ?_, ?_, ?_⟩
    · simp only [ScanStats.add, SortedMap.get?_put]
      by_cases hk : path' = path
      · subst hk
        simp [absent, eq_comm]
      · simp [hk, hfiles]
    · simp [ScanStats.add, hfailures]
    · simp [ScanStats.add, hprocessed]
    · simp only [ScanStats.add]; omega
    · simp only [ScanStats.add]; omega
    · exact herrors
    · simp only [ScanStats.add]
      rw [hcount, htests, Nat.add_comm]
  | error fault =>
    have hnew : s.failures.get? path = none := by
      refine Option.eq_none_iff_forall_ne_some.2 fun message hm => ?_
      obtain ⟨f, hf, -⟩ := (hfailures path message).1 hm
      exact absent _ hf
    have hsize : (s.failures.put path fault.message).size = s.failures.size + 1 := SortedMap.size_put hnew
    refine ⟨fun path' r => ?_, fun path' message => ?_, ?_, ?_, ?_, ?_, ?_⟩
    · simp [ScanStats.add, hfiles]
    · simp only [ScanStats.add, SortedMap.get?_put]
      by_cases hk : path' = path
      · subst hk
        simp [absent]
      · simp [hk, hfailures]
    · simp [ScanStats.add, hprocessed]
    · exact hanalyzed
    · simp only [ScanStats.add]; omega
    · simp only [ScanStats.add]; omega
    · exact htests

/-- The sums over files, after a walk that failed `walkErrors` times. -/
def ofOutcomes (walkErrors : Nat) (outcomes : List (String × ScanOutcome)) : ScanStats :=
  outcomes.foldl (fun s e => s.add e.1 e.2) { errors := walkErrors }

theorem Accounts.foldl_add {rest : List (String × ScanOutcome)} (h : s.Accounts walkErrors done)
    (distinct : ((done ++ rest).map Prod.fst).Nodup) :
    (rest.foldl (fun s e => s.add e.1 e.2) s).Accounts walkErrors (done ++ rest) := by
  induction rest generalizing s done with
  | nil => simpa using h
  | cons e rest ih =>
    obtain ⟨path, outcome⟩ := e
    have hp : path ∉ done.map Prod.fst := by
      rw [List.map_append, List.map_cons, List.nodup_append] at distinct
      exact fun hm => distinct.2.2 path hm path List.mem_cons_self rfl
    rw [List.append_cons] at distinct ⊢
    exact ih (h.add hp outcome) distinct

/-- The sums over files of different paths. -/
theorem accounts_ofOutcomes {outcomes : List (String × ScanOutcome)} (distinct : (outcomes.map Prod.fst).Nodup) :
    (ofOutcomes walkErrors outcomes).Accounts walkErrors outcomes :=
  accounts_nil.foldl_add distinct

/-- What is printed of files while they are counted. -/
def details (shown : Bool) (outcomes : List (String × ScanOutcome)) : String :=
  String.join (outcomes.map fun e => if shown then unlines (outcomeLines e.1 e.2) else "")

theorem details_of_not_shown (outcomes : List (String × ScanOutcome)) : details false outcomes = "" := by
  induction outcomes with
  | nil => rfl
  | cons e outcomes ih =>
    rw [details, List.map_cons, String.join_cons]
    exact (String.empty_append).trans ih

/-- To print the lines about each file on the way does nothing to the sums. -/
theorem prints_tally (shown : Bool) (walkErrors : Nat) (outcomes : List (String × ScanOutcome)) :
    (tally shown walkErrors outcomes).Prints (ofOutcomes walkErrors outcomes) (details shown outcomes) := by
  refine Action.prints_foldlM (fun s e => ?_) outcomes _
  cases shown with
  | true =>
    refine fun w => (Action.bind_apply_of_ok (Action.prints_forM_printLine (outcomeLines e.1 e.2) w)).trans ?_
    rfl
  | false => exact Action.prints_pure _

end ScanStats

/-! ## Scans -/

namespace ScanCommand

variable {c : ScanCommand} {selection : Selection} {analyze : String → ScanOutcome} {items : List WalkItem}

/-- The files to analyse, each with what comes of it. -/
def pairs (c : ScanCommand) (selection : Selection) (analyze : String → ScanOutcome) (items : List WalkItem) :
    List (String × ScanOutcome) :=
  (selection.candidates c.walk.followLinks items).map fun path => (path, analyze path)

/-- The sums over the items of a walk. -/
def sums (c : ScanCommand) (selection : Selection) (analyze : String → ScanOutcome) (items : List WalkItem) :
    ScanStats :=
  .ofOutcomes (items.filter (· == .failure)).length (c.pairs selection analyze items)

theorem mem_pairs {path : String} {outcome : ScanOutcome} :
    (path, outcome) ∈ c.pairs selection analyze items ↔
      selection.Takes c.walk.followLinks items path ∧ analyze path = outcome := by
  unfold pairs
  simp only [List.mem_map, Selection.mem_candidates, Prod.mk.injEq]
  constructor
  · rintro ⟨_, hp, rfl, ho⟩
    exact ⟨hp, ho⟩
  · rintro ⟨hp, ho⟩
    exact ⟨path, hp, rfl, ho⟩

theorem map_fst_pairs :
    (c.pairs selection analyze items).map Prod.fst = selection.candidates c.walk.followLinks items := by
  simp [pairs, Function.comp_def]

theorem accounts_sums (c : ScanCommand) (selection : Selection) (analyze : String → ScanOutcome)
    (distinct : (items.filterMap WalkItem.path?).Nodup) :
    (c.sums selection analyze items).Accounts (items.count .failure) (c.pairs selection analyze items) := by
  rw [sums, ← List.count_eq_length_filter]
  refine ScanStats.accounts_ofOutcomes ?_
  rw [map_fst_pairs]
  exact Selection.nodup_candidates distinct

section Distinct

variable (distinct : (items.filterMap WalkItem.path?).Nodup) {path : String}
include distinct

/-- The results of a file are those that it has alone. -/
theorem get?_files_sums {results : ResultMap} :
    (c.sums selection analyze items).files.get? path = some results ↔
      selection.Takes c.walk.followLinks items path ∧ analyze path = .ok results := by
  rw [(c.accounts_sums selection analyze distinct).files, mem_pairs]

/-- The failure of a file is the one that it has alone. -/
theorem get?_failures_sums {message : String} :
    (c.sums selection analyze items).failures.get? path = some message ↔
      selection.Takes c.walk.followLinks items path ∧
        ∃ fault, analyze path = .error fault ∧ fault.message = message := by
  rw [(c.accounts_sums selection analyze distinct).failures]
  constructor
  · rintro ⟨fault, ho, hm⟩
    obtain ⟨hp, ho⟩ := mem_pairs.1 ho
    exact ⟨hp, fault, ho, hm⟩
  · rintro ⟨hp, fault, ho, hm⟩
    exact ⟨fault, mem_pairs.2 ⟨hp, ho⟩, hm⟩

/-- No file has both results and a failure. -/
theorem not_contains_both :
    ¬ ((c.sums selection analyze items).files.contains path = true ∧
      (c.sums selection analyze items).failures.contains path = true) := by
  rw [SortedMap.contains_iff_get?, SortedMap.contains_iff_get?]
  rintro ⟨⟨results, hr⟩, ⟨message, hm⟩⟩
  obtain ⟨-, hr⟩ := (get?_files_sums distinct).1 hr
  obtain ⟨-, fault, hf, -⟩ := (get?_failures_sums distinct).1 hm
  cases hr.symm.trans hf

/-- A file has results or a failure iff the scan takes it. -/
theorem contains_iff_takes :
    (c.sums selection analyze items).files.contains path = true ∨
      (c.sums selection analyze items).failures.contains path = true ↔
      selection.Takes c.walk.followLinks items path := by
  rw [SortedMap.contains_iff_get?, SortedMap.contains_iff_get?]
  constructor
  · rintro (⟨results, hr⟩ | ⟨message, hm⟩)
    · exact ((get?_files_sums distinct).1 hr).1
    · exact ((get?_failures_sums distinct).1 hm).1
  · intro hp
    cases ho : analyze path with
    | ok results => exact .inl ⟨results, (get?_files_sums distinct).2 ⟨hp, ho⟩⟩
    | error fault => exact .inr ⟨fault.message, (get?_failures_sums distinct).2 ⟨hp, fault, ho, rfl⟩⟩

/-- The number of files is that of the paths that the scan takes. -/
theorem processed_sums {paths : List String} (hn : paths.Nodup)
    (h : ∀ path, path ∈ paths ↔ selection.Takes c.walk.followLinks items path) :
    (c.sums selection analyze items).processed = paths.length := by
  rw [(c.accounts_sums selection analyze distinct).processed, pairs, List.length_map]
  refine List.Perm.length_eq ?_
  rw [List.perm_ext_iff_of_nodup (Selection.nodup_candidates distinct) hn]
  exact fun path => Selection.mem_candidates.trans (h path).symm

end Distinct

/-- The pairs are what the workers give, zipped with the files. -/
theorem outcomes_apply_eq_ok_iff {w w' : World} {outcomes : List (String × ScanOutcome)} :
    c.outcomes selection analyze items w = (.ok outcomes, w') ↔
      w.host.CanWork c.workers (selection.candidates c.walk.followLinks items).length ∧
        outcomes = c.pairs selection analyze items ∧ w' = w := by
  unfold ScanCommand.outcomes
  simp only [workers_bind_apply_eq_ok_iff, Action.pure_apply, Prod.mk.injEq, Except.ok.injEq, pairs,
    List.map_prod_left_eq_zip, @eq_comm _ _ outcomes, @eq_comm _ w w']

/-- The sums are those over the pairs, if the work can be done. -/
theorem stats_apply_eq_ok_iff {quiet : Bool} {w w' : World} {stats : ScanStats} :
    c.stats quiet selection analyze items w = (.ok stats, w') ↔
      w.host.CanWork c.workers (selection.candidates c.walk.followLinks items).length ∧
        stats = c.sums selection analyze items ∧
        w' = { w with output := w.output ++ ScanStats.details (!quiet && !c.json) (c.pairs selection analyze items) } := by
  unfold ScanCommand.stats
  cases h : c.outcomes selection analyze items w with
  | mk result v =>
    cases result with
    | error e =>
      rw [Action.bind_apply_of_error h]
      refine iff_of_false (by simp) ?_
      rintro ⟨hw, -, -⟩
      rw [outcomes_apply_eq_ok_iff.2 ⟨hw, rfl, rfl⟩] at h
      cases h
    | ok outcomes =>
      obtain ⟨hw, rfl, rfl⟩ := outcomes_apply_eq_ok_iff.1 h
      rw [Action.bind_apply_of_ok h, ScanStats.prints_tally, Prod.mk.injEq, Except.ok.injEq]
      constructor
      · rintro ⟨rfl, rfl⟩
        exact ⟨hw, rfl, rfl⟩
      · rintro ⟨-, rfl, rfl⟩
        exact ⟨rfl, rfl⟩

/-- What is printed when the sums are known. -/
def closing (c : ScanCommand) (quiet : Bool) (s : ScanStats) : String :=
  if c.json then s.toJson.pretty ++ "\n" else if quiet then "" else s.line ++ "\n"

theorem report_apply (c : ScanCommand) (quiet : Bool) (s : ScanStats) (w : World) :
    c.report quiet s w = writeDocument c.document s.toJson { w with output := w.output ++ c.closing quiet s } := by
  unfold report closing
  cases c.json with
  | true => exact Action.bind_apply_of_ok (Action.prints_printLine s.toJson.pretty w)
  | false =>
    cases quiet with
    | true => exact congrArg (fun output => writeDocument c.document s.toJson { w with output }) String.append_empty.symm
    | false => exact Action.bind_apply_of_ok (Action.prints_printLine s.line w)

/-- A scan says what it found, writes it, and ends with its status. -/
theorem scanItems_apply_of_stats {quiet : Bool} {w w' : World} {stats : ScanStats}
    (h : c.stats quiet selection analyze items w = (.ok stats, w')) :
    c.scanItems quiet selection analyze items w =
      (writeDocument c.document stats.toJson >>= fun _ =>
        pure (if c.failOnError = true ∧ 0 < stats.errors then 1 else 0))
        { w' with output := w'.output ++ c.closing quiet stats } := by
  rw [scanItems, Action.bind_apply_of_ok h, Action.bind_apply, report_apply, Action.bind_apply]
  simp only [Bool.and_eq_true, decide_eq_true_eq]

theorem exists_text_of_stats {quiet : Bool} {w w' : World} {stats : ScanStats}
    (h : c.stats quiet selection analyze items w = (.ok stats, w')) :
    ∃ text, c.scanItems quiet selection analyze items w =
        (writeDocument c.document stats.toJson >>= fun _ =>
          pure (if c.failOnError = true ∧ 0 < stats.errors then 1 else 0)) { w with output := w.output ++ text } ∧
      (c.json = true → text = stats.toJson.pretty ++ "\n") := by
  have hscan := scanItems_apply_of_stats h
  obtain ⟨-, -, rfl⟩ := stats_apply_eq_ok_iff.1 h
  refine ⟨_, by rw [hscan, String.append_assoc], fun hj => ?_⟩
  rw [hj, Bool.not_true, Bool.and_false, ScanStats.details_of_not_shown, String.empty_append, closing, if_pos hj]

/-- **Every file of a scan is accounted for.** If a walk gives no path twice, each file that the scan takes has either
results or a failure, as it has when it is analysed alone, and nothing else has. The sums count these files, those with
results, those with a failure together with the failures of the walk, and the test cases in the results. They are what
is printed and written, and the status follows from them. -/
theorem scan_accounting (c : ScanCommand) (quiet : Bool) (selection : Selection) (t : FileTree) (rules : Rules)
    (root : String) (items : List WalkItem) (distinct : (items.filterMap WalkItem.path?).Nodup) (w : World) :
    ((∃ stats w', c.stats quiet selection (c.analyze t rules root) items w = (.ok stats, w')) ↔
      w.host.CanWork c.workers (selection.candidates c.walk.followLinks items).length) ∧
    ∀ stats w', c.stats quiet selection (c.analyze t rules root) items w = (.ok stats, w') →
      (∀ path, ¬ (stats.files.contains path = true ∧ stats.failures.contains path = true)) ∧
      (∀ path, stats.files.contains path = true ∨ stats.failures.contains path = true ↔
        selection.Takes c.walk.followLinks items path) ∧
      (∀ paths : List String, paths.Nodup → (∀ path, path ∈ paths ↔ selection.Takes c.walk.followLinks items path) →
        stats.processed = paths.length) ∧
      stats.processed = stats.analyzed + stats.failures.size ∧
      stats.analyzed = stats.files.size ∧
      stats.errors = stats.failures.size + items.count .failure ∧
      stats.testCases = testCaseCount stats.files.entries ∧
      (∀ path results, stats.files.get? path = some results ↔
        selection.Takes c.walk.followLinks items path ∧
          analyzeFile t rules ⟨c.module⟩ (Path.join root path) = .ok results) ∧
      (∀ path message, stats.failures.get? path = some message ↔
        selection.Takes c.walk.followLinks items path ∧
          ∃ fault, analyzeFile t rules ⟨c.module⟩ (Path.join root path) = .error fault ∧ fault.message = message) ∧
      ∃ text, c.scanItems quiet selection (c.analyze t rules root) items w =
          (writeDocument c.document stats.toJson >>= fun _ =>
            pure (if c.failOnError = true ∧ 0 < stats.errors then 1 else 0)) { w with output := w.output ++ text } ∧
        (c.json = true → text = stats.toJson.pretty ++ "\n") := by
  constructor
  · simp only [stats_apply_eq_ok_iff]
    exact ⟨fun h => h.choose_spec.choose_spec.1, fun h => ⟨_, _, h, rfl, rfl⟩⟩
  · intro stats w' h
    have htext := exists_text_of_stats h
    obtain ⟨-, rfl, -⟩ := stats_apply_eq_ok_iff.1 h
    have haccounts := c.accounts_sums selection (c.analyze t rules root) distinct
    refine ⟨fun _ => not_contains_both distinct, fun _ => contains_iff_takes distinct,
      fun _ => processed_sums distinct, haccounts.processed_eq, haccounts.analyzed, haccounts.errors,
      haccounts.testCases, fun _ _ => get?_files_sums distinct, fun _ _ => get?_failures_sums distinct, htext⟩

/-- A link that leads nowhere, a test file and one that is no text. -/
def mixedTree : FileTree where
  root := .directory
    [("BTest.java", .link "nowhere"),
     ("a", .directory [("ATest.java", .file "class A{@Test void t(){}}".toUTF8), ("CTest.java", .file ⟨#[0xff]⟩)])]
  current := []

theorem wellNamed_mixedTree : mixedTree.root.WellNamed :=
  .directory (by decide) (by decide)
    (List.forall_mem_cons.2 ⟨.link _, List.forall_mem_singleton.2 (.directory (by decide) (by decide)
      (List.forall_mem_cons.2 ⟨.file _, List.forall_mem_singleton.2 (.file _)⟩))⟩)

/-- A scan for test files that follows links. -/
def mixedScan : ScanCommand where
  directory := "."
  module := "FooCheck"
  includes := ["**/*Test.java"]
  excludes := []
  workers := none
  walk := { followLinks := true }
  json := false
  document := none
  failOnError := true

/-- Java tests, and nothing left out. -/
def testFiles : Selection := ⟨(Glob.ofString? "**/*Test.java" true).toList, []⟩

theorem walk_mixedTree : mixedTree.walk mixedScan.walk [] =
    [.failure, .directory "a", .file "a/ATest.java" false, .file "a/CTest.java" false] := by
  decide +kernel

theorem mem_takes_mixedTree (path : String) :
    path ∈ ["a/ATest.java", "a/CTest.java"] ↔
      testFiles.Takes mixedScan.walk.followLinks (mixedTree.walk mixedScan.walk []) path := by
  rw [Selection.Takes, ← Selection.accepts_eq_true_iff, walk_mixedTree]
  constructor
  · intro h
    have haccepts : ∀ p ∈ ["a/ATest.java", "a/CTest.java"], testFiles.accepts p = true := by decide +kernel
    exact ⟨⟨false, by simpa using h, by simp⟩, haccepts path h⟩
  · rintro ⟨⟨isLink, h, -⟩, -⟩
    have hpath : (path = "a/ATest.java" ∧ isLink = false) ∨ (path = "a/CTest.java" ∧ isLink = false) := by
      simpa using h
    rcases hpath with ⟨rfl, -⟩ | ⟨rfl, -⟩ <;> simp

theorem analyzeFile_mixedTree_ok :
    analyzeFile mixedTree .standard ⟨"FooCheck"⟩ (Path.join "/" "a/ATest.java") =
      .ok (ResultMap.empty.insert "t" .empty) :=
  eq_ok_of_toOption (by decide +kernel)

theorem analyzeFile_mixedTree_error :
    ∃ fault, analyzeFile mixedTree .standard ⟨"FooCheck"⟩ (Path.join "/" "a/CTest.java") = .error fault ∧
      fault.message = "failed to decode /a/CTest.java using UTF-8" := by
  have h : (((analyzeFile mixedTree .standard ⟨"FooCheck"⟩ (Path.join "/" "a/CTest.java")).map fun _ => "").tryCatch
      fun fault => .ok fault.message).toOption = some "failed to decode /a/CTest.java using UTF-8" := by
    decide +kernel
  cases hr : analyzeFile mixedTree .standard ⟨"FooCheck"⟩ (Path.join "/" "a/CTest.java") with
  | error fault =>
    rw [hr] at h
    exact ⟨fault, rfl, Option.some.inj h⟩
  | ok results =>
    rw [hr] at h
    exact absurd (Option.some.inj h : "" = _) (by decide)

/-- One file has results, one a failure, and the status tells of the failures. -/
theorem scan_accounting_mixedTree :
    let items := mixedTree.walk mixedScan.walk []
    ∃ stats w', mixedScan.stats true testFiles (mixedScan.analyze mixedTree .standard "/") items
        { files := mixedTree } = (.ok stats, w') ∧
      stats.processed = 2 ∧
      stats.files.get? "a/ATest.java" = some (ResultMap.empty.insert "t" .empty) ∧
      stats.failures.get? "a/CTest.java" = some "failed to decode /a/CTest.java using UTF-8" ∧
      stats.errors = stats.failures.size + 1 ∧
      (mixedScan.scanItems true testFiles (mixedScan.analyze mixedTree .standard "/") items
        { files := mixedTree }).1 = .ok 1 := by
  obtain ⟨hexists, hstats⟩ :=
    scan_accounting mixedScan true testFiles mixedTree .standard "/" (mixedTree.walk mixedScan.walk [])
      (FileTree.nodup_paths_walk wellNamed_mixedTree mixedScan.walk []) { files := mixedTree }
  obtain ⟨stats, w', h⟩ := hexists.2 ⟨by decide, fun _ _ => rfl⟩
  obtain ⟨-, -, hprocessed, -, -, herrors, -, hfiles, hfailures, text, hscan, -⟩ := hstats stats w' h
  rw [walk_mixedTree, show List.count _ _ = 1 from rfl] at herrors
  obtain ⟨fault, hfault, hmessage⟩ := analyzeFile_mixedTree_error
  refine ⟨stats, w', h, hprocessed _ (by decide) mem_takes_mixedTree, (hfiles _ _).2 ⟨?_, analyzeFile_mixedTree_ok⟩,
    (hfailures _ _).2 ⟨?_, fault, hfault, hmessage⟩, herrors, ?_⟩
  · exact (mem_takes_mixedTree _).1 (by simp)
  · exact (mem_takes_mixedTree _).1 (by simp)
  · rw [hscan, Action.bind_pure_fst, if_pos ⟨rfl, by omega⟩]
    rfl

end ScanCommand

end ConfigCoverage
