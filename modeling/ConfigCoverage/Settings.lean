import ConfigCoverage.Coverage
import ConfigCoverage.TestCase
import ConfigCoverage.Toml.Parser

/-!
# Settings

* `Settings.ofText`: the settings that a TOML document writes; what it leaves out has its default.
* `Settings.rules`: the rules of an analysis under settings.
-/

namespace ConfigCoverage

/-- What counts as a test case and as a setter. -/
structure AnalysisSettings where
  testMarkers : List String := [TestCaseRule.defaultMarker]
  /-- A pattern of names; an empty one stands for none. -/
  testNamePattern : String := TestCaseRule.defaultNamePattern
  setterPrefix : String := defaultSetterPrefix
deriving DecidableEq, Repr

/-- What is compared, and where tests are found. -/
structure CoverageSettings where
  excludeProperties : List String := defaultExclusions
  skipModules : List String := []
  testRoot : String := "src/test/java"
deriving DecidableEq, Repr

/-- The settings of a configuration file. -/
structure Settings where
  analysis : AnalysisSettings := {}
  coverage : CoverageSettings := {}
deriving DecidableEq, Repr

namespace Settings

/-! ## Reading -/

/-- The text of a string. -/
def text? : Toml.Value → Option String
  | .string s => some s
  | _ => none

/-- The texts of an array of strings. -/
def texts? : Toml.Value → Option (List String)
  | .array items => items.mapM text?
  | _ => none

/-- The fields of a record, given by their names in order: by name in a table, by place in an array. A moment is a
record without fields. -/
def record? (names : List String) : Toml.Value → Option (List (Option Toml.Value))
  | .table _ fields => some (names.map fun n => Toml.get? n fields)
  | .array items => some ((List.range names.length).map fun i => items[i]?)
  | .tables items => some ((List.range names.length).map fun i => (items[i]?).map (Toml.Value.table .headed))
  | .moment => some (names.map fun _ => none)
  | _ => none

/-- Read a field, or take its default. -/
def field? {α : Type} (read : Toml.Value → Option α) (default : α) : Option Toml.Value → Option α
  | none => some default
  | some v => read v

/-- The settings of the analysis in a table; what is not set has its default. -/
def analysisOf? (v : Toml.Value) : Option AnalysisSettings :=
  let d : AnalysisSettings := {}
  match record? ["test_markers", "test_name_pattern", "setter_prefix"] v with
  | some [markers, pattern, setter] => do
    some ⟨← field? texts? d.testMarkers markers, ← field? text? d.testNamePattern pattern,
      ← field? text? d.setterPrefix setter⟩
  | _ => none

/-- The settings of the coverage in a table; what is not set has its default. -/
def coverageOf? (v : Toml.Value) : Option CoverageSettings :=
  let d : CoverageSettings := {}
  match record? ["exclude_properties", "skip_modules", "test_root"] v with
  | some [exclude, skip, root] => do
    some ⟨← field? texts? d.excludeProperties exclude, ← field? texts? d.skipModules skip,
      ← field? text? d.testRoot root⟩
  | _ => none

/-- The settings of a document. -/
def ofFields? (fields : Toml.Fields) : Option Settings := do
  some ⟨← field? analysisOf? {} (Toml.get? "analysis" fields), ← field? coverageOf? {} (Toml.get? "coverage" fields)⟩

/-- The settings that a text writes. -/
def ofText (text : String) : Except Failure Settings :=
  match (Toml.parse? text).bind ofFields? with
  | some s => .ok s
  | none => .error .invalidToml

/-! ## Rules -/

/-- Which methods are test cases; the pattern counts without the blanks around it. -/
def testCaseRule (s : Settings) : Except Failure TestCaseRule :=
  let pattern := trimmed s.analysis.testNamePattern
  TestCaseRule.ofPattern s.analysis.testMarkers (if pattern = "" then none else some pattern)

/-- The rules of an analysis. -/
def rules (s : Settings) : Except Failure Rules :=
  if s.analysis.setterPrefix = "" then .error .emptySetterPrefix
  else
    match s.testCaseRule with
    | .error e => .error e
    | .ok r => .ok ⟨r.accepts, setterProperty s.analysis.setterPrefix⟩

/-- What a comparison leaves out. -/
def exclusions (s : Settings) : Exclusions := .ofList s.coverage.excludeProperties

end Settings

end ConfigCoverage
