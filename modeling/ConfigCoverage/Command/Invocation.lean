import ConfigCoverage.FileTree.Walk

/-!
# Invocations

What the program is asked to do.
-/

namespace ConfigCoverage

/-- Print the properties that each test case of one file sets. -/
structure AnalyzeCommand where
  file : String
  module : String
  json : Bool
deriving DecidableEq, Repr

/-- Analyse the test files below a directory for one module. -/
structure ScanCommand where
  directory : String
  module : String
  /-- Globs of the files to analyse; without any, the names that tests usually have. -/
  includes : List String
  excludes : List String
  workers : Option Nat
  walk : WalkOptions
  json : Bool
  /-- Where to write the results as well. -/
  document : Option String
  failOnError : Bool
deriving DecidableEq, Repr

/-- Compare the properties that modules declare with those that their tests set. -/
structure CoverageCommand where
  catalog : String
  repository : String
  testRoot : Option String
  /-- The modules to look at; without any, all of the catalog. -/
  modules : List String
  skip : List String
  excludeProperties : List String
  workers : Option Nat
  json : Bool
  /-- Where to write the reports as well. -/
  document : Option String
  failOnUntested : Bool
  failOnError : Bool
deriving DecidableEq, Repr

/-- A command with its arguments. -/
inductive Command where
  | analyze (c : AnalyzeCommand)
  | scan (c : ScanCommand)
  | coverage (c : CoverageCommand)
deriving DecidableEq, Repr

/-- The document of a command. -/
def Command.document? : Command → Option String
  | .analyze _ => none
  | .scan c => c.document
  | .coverage c => c.document

/-- A command, with what holds for all of them. -/
structure Invocation where
  /-- The file with settings. -/
  settings : Option String
  quiet : Bool
  command : Command
deriving DecidableEq, Repr

end ConfigCoverage
