import ConfigCoverage.Error
import ConfigCoverage.ResultMap

/-!
# Analysis of a file

A file is analysed for one module: each method that is a test case is flattened, tracked and searched for properties.

* `processFile`: the results of a file, or why there are none.
* `Context`: a module, the rules, and the results of the last file, for a caller that goes through many files.
-/

namespace ConfigCoverage

/-- What counts as a test case, and which property a method sets. -/
structure Rules where
  isTestCase : Method → Bool
  propertyName : String → Option String

/-- The properties that a test case sets. -/
def testCaseProperties (propertyName : String → Option String) (m : ModuleId) (method : Method) : PropertySet :=
  let body := flatten method.body
  extract propertyName body (track m body)

/-- The first method with a blank name. -/
def namelessMethod? (file : SourceFile) : Option Method := file.methods.find? fun m => trimmed m.name == ""

/-- The results of the test cases among `methods`. -/
def collectResults (rules : Rules) (m : ModuleId) (methods : List Method) : ResultMap :=
  (methods.filter rules.isTestCase).foldl
    (fun r method => r.insert method.name (testCaseProperties rules.propertyName m method)) .empty

/-- The results of a file for a module. -/
def processFile (rules : Rules) (m : Option ModuleId) (file : SourceFile) : Except Failure ResultMap :=
  match m with
  | none => .error .noModule
  | some m =>
    match namelessMethod? file with
    | some method => .error (.namelessMethod file.name method.line)
    | none => .ok (collectResults rules m file.methods)

/-- A caller's state between files. -/
structure Context where
  module : Option ModuleId
  rules : Rules
  results : ResultMap

namespace Context

/-- A context without a module. -/
def ofRules (rules : Rules) : Context := ⟨none, rules, .empty⟩

/-- Look for this module from now on. -/
def setModule (c : Context) (identifier : String) : Context := { c with module := some ⟨identifier⟩ }

/-- Look for no module. -/
def clearModule (c : Context) : Context := { c with module := none }

/-- Drop the results of the last file. -/
def reset (c : Context) : Context := { c with results := .empty }

/-- Hand out the results of the last file and drop them. -/
def takeResults (c : Context) : Context × ResultMap := (c.reset, c.results)

/-- Analyse a file. The results of the last file are dropped first, so that a failure leaves none. -/
def process (c : Context) (file : SourceFile) : Context × Except Failure ResultMap :=
  let c := c.reset
  match processFile c.rules c.module file with
  | .error e => (c, .error e)
  | .ok r => ({ c with results := r }, .ok r)

/-- Analyse a source text with the given reader. A missing module is found before the text is read. -/
def processSource (c : Context) (source : Unit → Except Failure SourceFile) : Context × Except Failure ResultMap :=
  match c.module with
  | none => (c.reset, .error .noModule)
  | some _ =>
    match source () with
    | .error e => (c.reset, .error e)
    | .ok file => c.process file

end Context

end ConfigCoverage
