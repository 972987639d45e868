import ConfigCoverage.Catalog
import ConfigCoverage.ResultMap

/-!
# Coverage of a module

The properties that a module declares, compared with those that its tests set.

* `Report.compute`: the comparison.
* `Report.isComplete`: every declared property is set by some test case.
-/

namespace ConfigCoverage

/-- The names that a comparison leaves out on both sides. -/
abbrev Exclusions := SortedSet String

/-- The exclusions where nothing else is said. -/
def defaultExclusions : List String := ["tokens"]

/-- How the tests cover a module. -/
structure Report where
  module : String
  /-- The declared properties, in the order of their declaration. -/
  declared : List String
  /-- The properties that some test case sets, ascending. -/
  exercised : List String
  /-- Those declared that no test case sets. -/
  untested : List String
  /-- Those set that are not declared. -/
  undeclared : List String
  excluded : List String
  testCases : Nat
  /-- The test cases that set no property. -/
  defaultOnlyTests : List String
deriving DecidableEq, Repr

namespace Report

/-- Compare what a module declares with what its tests set. -/
def compute (m : ModuleInfo) (results : ResultMap) (excluded : Exclusions) : Report :=
  let declared := m.propertyNames.filter fun p => !excluded.contains p
  let exercised := results.propertyNames.toList.filter fun p => !excluded.contains p
  { module := m.identifier
    declared
    exercised
    untested := declared.filter fun p => !exercised.contains p
    undeclared := exercised.filter fun p => !declared.contains p
    excluded := excluded.toList
    testCases := results.size
    defaultOnlyTests := results.defaultOnlyTests }

/-- Is every declared property set by some test case? -/
def isComplete (r : Report) : Bool := r.untested.isEmpty

/-- A line in summary, and a line for each property that is missing on one side. -/
def text (r : Report) : String :=
  let status := if r.isComplete then "ok" else "MISSING"
  let tested := r.declared.length - r.untested.length
  status ++ " " ++ r.module ++ ": " ++ toString tested ++ "/" ++ toString r.declared.length ++
    " properties exercised by " ++ toString r.testCases ++ " test cases\n" ++
    String.join (r.untested.map fun p => "  untested: " ++ p ++ "\n") ++
    String.join (r.undeclared.map fun p => "  undeclared: " ++ p ++ "\n")

/-- A report as a record. -/
def toJson (r : Report) : Json.Value :=
  .object
    [("module", .string r.module),
     ("declared", .ofStrings r.declared),
     ("exercised", .ofStrings r.exercised),
     ("untested", .ofStrings r.untested),
     ("undeclared", .ofStrings r.undeclared),
     ("excluded", .ofStrings r.excluded),
     ("test_cases", .ofNat r.testCases),
     ("default_only_tests", .ofStrings r.defaultOnlyTests)]

end Report

end ConfigCoverage
