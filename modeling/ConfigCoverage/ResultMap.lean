import ConfigCoverage.Property
import ConfigCoverage.Sorted.Map

/-!
# Results of a file

The properties that each test case of a file sets, by the name of the test case. A test case that sets nothing has an
entry with the empty set: it tests the defaults.
-/

namespace ConfigCoverage

/-- The properties that each test case sets. -/
structure ResultMap where
  tests : SortedMap String PropertySet
deriving DecidableEq

namespace ResultMap

/-- No test case. -/
def empty : ResultMap := ⟨.empty⟩

instance : Inhabited ResultMap := ⟨empty⟩

/-- Record a test case; the properties of test cases of one name are put together. -/
def insert (r : ResultMap) (test : String) (properties : PropertySet) : ResultMap :=
  ⟨r.tests.alter test fun
    | none => properties
    | some old => old.union properties⟩

/-- The properties under a name. -/
def get? (r : ResultMap) (test : String) : Option PropertySet := r.tests.get? test

/-- Is there a test case of this name? -/
def contains (r : ResultMap) (test : String) : Bool := r.tests.contains test

/-- How many test cases there are. -/
def size (r : ResultMap) : Nat := r.tests.size

/-- Is there no test case? -/
def isEmpty (r : ResultMap) : Bool := r.tests.isEmpty

/-- The test cases with their properties, by ascending name. -/
def toList (r : ResultMap) : List (String × PropertySet) := r.tests.entries

/-- The names of all properties that some test case sets. -/
def propertyNames (r : ResultMap) : SortedSet String :=
  .ofList (r.toList.flatMap fun (_, ps) => ps.toList.map Property.name)

/-- The test cases that set no property. -/
def defaultOnlyTests (r : ResultMap) : List String :=
  (r.toList.filter fun (_, ps) => ps.isEmpty).map Prod.fst

end ResultMap

end ConfigCoverage
