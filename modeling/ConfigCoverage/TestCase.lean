import ConfigCoverage.Analysis
import ConfigCoverage.Pattern.Parser

/-!
# Test cases

A method is a test case if it carries one of some markers, or if its name holds a match of a pattern.
-/

namespace ConfigCoverage

/-- Which methods are test cases. -/
structure TestCaseRule where
  markers : SortedSet String
  namePattern : Option Pattern

namespace TestCaseRule

/-- The marker of test cases where nothing else is said. -/
def defaultMarker : String := "Test"

/-- The pattern of their names where nothing else is said. -/
def defaultNamePattern : String := "^test"

/-- What is said of a text that is no pattern, before the details. -/
def noPattern : String := "regex parse error:"

/-- A rule by its markers and the text of its pattern. -/
def ofPattern (markers : List String) (pattern : Option String) : Except Failure TestCaseRule :=
  match pattern with
  | none => .ok ⟨.ofList markers, none⟩
  | some text =>
    match Pattern.ofString? text with
    | some p => .ok ⟨.ofList markers, some p⟩
    | none => .error (.invalidPattern text noPattern)

/-- A rule by markers alone. -/
def ofMarkers (markers : List String) : TestCaseRule := ⟨.ofList markers, none⟩

/-- The rule where nothing else is said. -/
def standard : TestCaseRule := ⟨.ofList [defaultMarker], Pattern.ofString? defaultNamePattern⟩

/-- Is a method a test case? -/
def accepts (r : TestCaseRule) (method : Method) : Bool :=
  method.markers.any r.markers.contains || r.namePattern.any fun p => p.occursIn method.name

end TestCaseRule

/-- The beginning of the names of setters where nothing else is said. -/
def defaultSetterPrefix : String := "set"

/-- The rules where nothing else is said. -/
def Rules.standard : Rules := ⟨TestCaseRule.standard.accepts, setterProperty defaultSetterPrefix⟩

/-- The results of a file for a module where nothing else is said, by a context of its own. -/
def processStandard (file : SourceFile) (identifier : String) : Except Failure ResultMap :=
  let (c, answer) := ((Context.ofRules .standard).setModule identifier).process file
  answer.map fun _ => c.takeResults.2

end ConfigCoverage
