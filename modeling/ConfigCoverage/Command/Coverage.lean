import ConfigCoverage.Command.Action
import ConfigCoverage.Command.Invocation
import ConfigCoverage.FileTree.Documents

/-!
# Coverage of the modules of a catalog

The test of each module is looked for under a root, by the module's name; what it sets is compared with what the module
declares.

* `locateTestFile?`: the test of a module.
* `Catalog.select`: the modules to look at.
* `CoverageSummary.sortOut`, `CoverageSummary.addAll`: the lists and the sums over modules.
* `CoverageCommand.run`: the whole comparison.
-/

namespace ConfigCoverage

/-! ## Modules and their tests -/

/-- The name of a module as a path. -/
def ModuleInfo.path (m : ModuleInfo) : String := m.identifier.map fun c => if c = '.' then '/' else c

/-- Where the test of a module is expected, in a language. -/
def testPath (testRoot : String) (m : ModuleInfo) (language : Language) : String :=
  Path.join testRoot (m.path ++ "Test." ++ language.extension)

/-- The test of a module. -/
def locateTestFile? (t : FileTree) (testRoot : String) (m : ModuleInfo) : Option String :=
  ([Language.java, .python].map (testPath testRoot m)).find? t.isFile

/-- Is a module to be skipped? -/
def ModuleInfo.isSkipped (m : ModuleInfo) (skip : List String) : Bool :=
  skip.any fun name => name == m.name || name == m.fullName

/-- The modules of some names. -/
def Catalog.getAll (c : Catalog) : List String → Except Fault (List ModuleInfo)
  | [] => .ok []
  | name :: names =>
    match c.get? name with
    | none => .error (.unknownModule name)
    | some m => (c.getAll names).map (m :: ·)

/-- The modules to look at: those named, or all. -/
def Catalog.select (c : Catalog) (names : List String) : Except Fault (List ModuleInfo) :=
  if names.isEmpty then .ok c.modules else c.getAll names

/-- The report of a module, or why there is none. -/
def moduleReport (t : FileTree) (rules : Rules) (excluded : Exclusions) (testRoot : String) (m : ModuleInfo) :
    Except String Report :=
  match locateTestFile? t testRoot m with
  | none => .error ("no test file under " ++ testRoot ++ " (expected " ++ m.path ++ "Test.java)")
  | some path =>
    match analyzeFile t rules ⟨m.identifier⟩ path with
    | .error fault => .error fault.message
    | .ok results => .ok (.compute m results excluded)

/-! ## Summary -/

/-- A module without a report. -/
structure ModuleError where
  module : String
  message : String
deriving DecidableEq, Repr

/-- All that a comparison found. -/
structure CoverageSummary where
  /-- How many modules have all their properties tested. -/
  complete : Nat := 0
  /-- How many modules have untested properties. -/
  incomplete : Nat := 0
  /-- The identifiers of the modules that were skipped. -/
  skipped : List String := []
  reports : List Report := []
  errors : List ModuleError := []
deriving DecidableEq, Repr

namespace CoverageSummary

/-- Note a module that is to be skipped, and put any other one to those that are to be looked at. -/
def setAside (skip : List String) (p : CoverageSummary × List ModuleInfo) (m : ModuleInfo) :
    CoverageSummary × List ModuleInfo :=
  if m.isSkipped skip then ({ p.1 with skipped := p.1.skipped ++ [m.identifier] }, p.2) else (p.1, p.2 ++ [m])

/-- A summary with the modules that are skipped, and the modules that are left. -/
def sortOut (skip : List String) (modules : List ModuleInfo) : CoverageSummary × List ModuleInfo :=
  modules.foldl (setAside skip) ({}, [])

/-- Count what came of a module. -/
def add (s : CoverageSummary) (m : ModuleInfo) : Except String Report → CoverageSummary
  | .ok r =>
    if r.isComplete then { s with complete := s.complete + 1, reports := s.reports ++ [r] }
    else { s with incomplete := s.incomplete + 1, reports := s.reports ++ [r] }
  | .error message => { s with errors := s.errors ++ [⟨m.identifier, message⟩] }

/-- Count what came of modules, one after the other. -/
def addAll (s : CoverageSummary) (outcomes : List (ModuleInfo × Except String Report)) : CoverageSummary :=
  outcomes.foldl (fun s (m, outcome) => s.add m outcome) s

/-- The sums in a line. -/
def line (s : CoverageSummary) : String :=
  toString s.complete ++ " complete, " ++ toString s.incomplete ++ " incomplete, " ++
    toString s.errors.length ++ " errors, " ++ toString s.skipped.length ++ " skipped"

/-- Print the texts of the reports, a line for each error, and the sums. If `quiet` holds, only what is amiss. -/
def print (s : CoverageSummary) (quiet : Bool) : Action Unit := do
  s.reports.forM fun r => if quiet && r.isComplete then pure () else ConfigCoverage.print r.text
  s.errors.forM fun e => printLine ("ERROR " ++ e.module ++ ": " ++ e.message)
  if quiet then pure () else printLine s.line

/-- The summary as a record. -/
def toJson (s : CoverageSummary) : Json.Value :=
  .object
    [("complete", .ofNat s.complete),
     ("incomplete", .ofNat s.incomplete),
     ("skipped", .ofStrings s.skipped),
     ("reports", .array (s.reports.map Report.toJson)),
     ("errors", .array (s.errors.map fun e =>
       .object [("module", .string e.module), ("message", .string e.message)]))]

/-- The status at the end: one bit for errors and one for untested properties, where they are to count. -/
def status (s : CoverageSummary) (failOnUntested failOnError : Bool) : Nat :=
  (if failOnError && !s.errors.isEmpty then 1 else 0) ||| (if failOnUntested && 0 < s.incomplete then 2 else 0)

end CoverageSummary

namespace CoverageCommand

/-- The settings of a comparison: those of a file, with what the command adds. -/
def settings (c : CoverageCommand) (s : Settings) : CoverageSettings :=
  { excludeProperties := s.coverage.excludeProperties ++ c.excludeProperties
    skipModules := s.coverage.skipModules ++ c.skip
    testRoot := c.testRoot.getD s.coverage.testRoot }

/-- The summary of a comparison. -/
def summary (c : CoverageCommand) (rules : Rules) (settings : CoverageSettings) : Action CoverageSummary := do
  let t ← getFiles
  let repository ← check ((t.canonical c.repository).mapError fun _ => .noPath c.repository)
  let catalog ← check ((Catalog.ofFile t c.catalog).mapError .catalog)
  let selected ← check (catalog.select c.modules)
  let sorted := CoverageSummary.sortOut settings.skipModules selected
  let workers ← resolveWorkers c.workers
  let outcomes ← mapWorkers sorted.2 workers
    (moduleReport t rules (.ofList settings.excludeProperties) (Path.join repository settings.testRoot))
  return sorted.1.addAll (sorted.2.zip outcomes)

/-- Print a summary, and write its document. -/
def report (c : CoverageCommand) (s : CoverageSummary) (quiet : Bool) : Action Unit := do
  if c.json then printLine s.toJson.pretty else s.print quiet
  writeDocument c.document s.toJson

/-- Compare, say what was found, and give the status at the end. -/
def run (c : CoverageCommand) (s : Settings) (rules : Rules) (quiet : Bool) : Action Nat := do
  let summary ← c.summary rules (c.settings s)
  c.report summary quiet
  return summary.status c.failOnUntested c.failOnError

end CoverageCommand

end ConfigCoverage
