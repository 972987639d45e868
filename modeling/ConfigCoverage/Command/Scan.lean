import ConfigCoverage.Command.Action
import ConfigCoverage.Command.Invocation
import ConfigCoverage.ResultMap.Json

/-!
# Scanning a directory

Every test file below a directory is analysed for one module. Which files these are depends on what a walk comes upon;
they are taken in ascending order of their paths.

* `Selection.candidates`: the files to analyse among the items of a walk.
* `ScanStats.tally`, `ScanCommand.stats`: the sums over all files.
* `ScanCommand.run`: the whole scan.
-/

namespace ConfigCoverage

/-! ## Results as lines -/

/-- The properties of a test case in a line. -/
def PropertySet.line (ps : PropertySet) : String :=
  if ps.isEmpty then "(defaults)" else String.intercalate ", " (ps.toList.map Property.render)

/-- A line for each test case. -/
def ResultMap.lines (r : ResultMap) (indent : String) : List String :=
  r.toList.map fun (test, ps) => indent ++ test ++ ": " ++ PropertySet.line ps

/-! ## Files to analyse -/

/-- The globs of files to analyse and of files to leave out. -/
structure Selection where
  includes : List Glob
  excludes : List Glob

namespace Selection

/-- The names that tests usually have. -/
def defaultIncludes : List String := ["**/*Test.java", "**/test_*.py", "**/*_test.py"]

/-- What is left out of every scan. -/
def defaultExcludes : List String := ["**/.git/**", "**/target/**", "**/build/**"]

/-- The globs of some texts. -/
def readGlobs : List String → Except Fault (List Glob)
  | [] => .ok []
  | text :: texts =>
    match Glob.ofString? text true with
    | none => .error (.invalidGlob text)
    | some g => (readGlobs texts).map (g :: ·)

/-- The selection by the texts of globs. -/
def ofTexts (includes excludes : List String) : Except Fault Selection :=
  match readGlobs (if includes.isEmpty then defaultIncludes else includes) with
  | .error e => .error e
  | .ok includes => (readGlobs (defaultExcludes ++ excludes)).map fun excludes => ⟨includes, excludes⟩

/-- Is a path selected, and of a language that is known? -/
def accepts (s : Selection) (path : String) : Bool :=
  s.includes.any (·.accepts path) && !s.excludes.any (·.accepts path) && (Language.ofPath path).toBool

/-- The path of a file to analyse. A link counts only if links are followed. -/
def candidate? (s : Selection) (followLinks : Bool) : WalkItem → Option String
  | .file path isLink => if (followLinks || !isLink) && s.accepts path then some path else none
  | .directory _ | .failure => none

/-- The files to analyse, in ascending order. -/
def candidates (s : Selection) (followLinks : Bool) (items : List WalkItem) : List String :=
  (items.filterMap (s.candidate? followLinks)).mergeSort fun a b => decide (a ≤ b)

end Selection

/-! ## Sums -/

/-- What came of a file. -/
abbrev ScanOutcome := Except FileFault ResultMap

/-- The sums of a scan. -/
structure ScanStats where
  processed : Nat := 0
  analyzed : Nat := 0
  errors : Nat := 0
  testCases : Nat := 0
  files : SortedMap String ResultMap := .empty
  failures : SortedMap String String := .empty

namespace ScanStats

/-- Count a file. -/
def add (s : ScanStats) (path : String) : ScanOutcome → ScanStats
  | .ok results =>
    { s with
      processed := s.processed + 1
      analyzed := s.analyzed + 1
      testCases := s.testCases + results.size
      files := s.files.put path results }
  | .error fault =>
    { s with
      processed := s.processed + 1
      errors := s.errors + 1
      failures := s.failures.put path fault.message }

/-- The sums in a line. -/
def line (s : ScanStats) : String :=
  "Scanned " ++ toString s.processed ++ " files → " ++ toString s.analyzed ++ " analyzed, " ++ toString s.errors ++
    " errors, " ++ toString s.testCases ++ " test cases"

/-- The sums as a record; failures are left out if there are none. -/
def toJson (s : ScanStats) : Json.Value :=
  .object
    ([("processed", .ofNat s.processed),
      ("analyzed", .ofNat s.analyzed),
      ("errors", .ofNat s.errors),
      ("test_cases", .ofNat s.testCases),
      ("files", .object (s.files.entries.map fun (path, results) => (path, results.toJson)))] ++
      if s.failures.isEmpty then []
      else [("failures", .object (s.failures.entries.map fun (path, message) => (path, .string message)))])

end ScanStats

/-- The lines about a file; a failure has none. -/
def outcomeLines (path : String) : ScanOutcome → List String
  | .ok results => ("• " ++ path ++ " → " ++ toString results.size ++ " test cases") :: results.lines "    "
  | .error _ => []

/-- Count files one after the other, after a walk that failed `walkErrors` times. If `shown` holds, the lines about each
are printed on the way. -/
def ScanStats.tally (shown : Bool) (walkErrors : Nat) (outcomes : List (String × ScanOutcome)) : Action ScanStats :=
  outcomes.foldlM
    (fun s (path, outcome) => do
      if shown then
        (outcomeLines path outcome).forM printLine
      return s.add path outcome)
    { errors := walkErrors }

namespace ScanCommand

/-- What comes of each file to analyse among the items of a walk. -/
def outcomes (c : ScanCommand) (selection : Selection) (analyze : String → ScanOutcome) (items : List WalkItem) :
    Action (List (String × ScanOutcome)) := do
  let candidates := selection.candidates c.walk.followLinks items
  let workers ← resolveWorkers c.workers
  let outcomes ← mapWorkers candidates workers analyze
  return candidates.zip outcomes

/-- The sums over the items of a walk. -/
def stats (c : ScanCommand) (quiet : Bool) (selection : Selection) (analyze : String → ScanOutcome)
    (items : List WalkItem) : Action ScanStats := do
  let outcomes ← c.outcomes selection analyze items
  ScanStats.tally (!quiet && !c.json) (items.filter (· == .failure)).length outcomes

/-- Say what the sums are, and write the document. -/
def report (c : ScanCommand) (quiet : Bool) (s : ScanStats) : Action Unit := do
  if c.json then
    printLine s.toJson.pretty
  else if !quiet then
    printLine s.line
  writeDocument c.document s.toJson

/-- Scan the items of a walk, and give the status at the end. -/
def scanItems (c : ScanCommand) (quiet : Bool) (selection : Selection) (analyze : String → ScanOutcome)
    (items : List WalkItem) : Action Nat := do
  let stats ← c.stats quiet selection analyze items
  c.report quiet stats
  return if c.failOnError && 0 < stats.errors then 1 else 0

/-- What comes of the file at a path below a directory. -/
def analyze (c : ScanCommand) (t : FileTree) (rules : Rules) (root path : String) : ScanOutcome :=
  analyzeFile t rules ⟨c.module⟩ (Path.join root path)

/-- The place of the directory to scan. -/
def start (c : ScanCommand) (t : FileTree) : Except Fault Place :=
  match t.resolve c.directory with
  | .error _ => .error (.noPath c.directory)
  | .ok place =>
    match t.get? place with
    | some (.directory _) => .ok place
    | _ => .error (.notDirectory (FileTree.pathOf place))

/-- Scan, say what was found, and give the status at the end. -/
def run (c : ScanCommand) (rules : Rules) (quiet : Bool) : Action Nat := do
  let t ← getFiles
  let place ← check (c.start t)
  let selection ← check (Selection.ofTexts c.includes c.excludes)
  c.scanItems quiet selection (c.analyze t rules (FileTree.pathOf place)) (t.walk c.walk place)

end ScanCommand

end ConfigCoverage
