import ConfigCoverage.Json.Parser
import ConfigCoverage.Json.Reader
import ConfigCoverage.ResultMap

/-!
# Results as JSON

* `ResultMap.render`: an object with a list of properties for each test case.
* `ResultMap.read?`: the results that a text writes.
-/

namespace ConfigCoverage

/-- A property as a record of its name and its value. -/
def Property.toJson (p : Property) : Json.Value := .object [("name", .string p.name), ("value", .string p.value)]

/-- Read a property. -/
def Property.ofJson? (v : Json.Value) : Option Property :=
  match v.record? ["name", "value"] with
  | some [some name, some value] =>
    match name.text?, value.text? with
    | some name, some value => some ⟨name, value⟩
    | _, _ => none
  | _ => none

/-- A set of properties as a list. -/
def PropertySet.toJson (ps : PropertySet) : Json.Value := .array (ps.toList.map Property.toJson)

/-- Read a set of properties. -/
def PropertySet.ofJson? (v : Json.Value) : Option PropertySet := (v.list? Property.ofJson?).map SortedSet.ofList

namespace ResultMap

/-- Results as an object with a field for each test case. -/
def toJson (r : ResultMap) : Json.Value := .object (r.toList.map fun (test, ps) => (test, PropertySet.toJson ps))

/-- The entry of one field. -/
def entryOfJson? (field : String × Json.Value) : Option (String × PropertySet) :=
  (PropertySet.ofJson? field.2).map (field.1, ·)

/-- Read results; of fields with one name the last counts. -/
def ofJson? (v : Json.Value) : Option ResultMap :=
  match v with
  | .object fields => (fields.mapM entryOfJson?).map fun entries => ⟨SortedMap.ofList entries⟩
  | _ => none

/-- The text of results. -/
def render (r : ResultMap) : String := r.toJson.pretty

/-- The results that a text writes. -/
def read? (text : String) : Option ResultMap := (Json.parse? text).bind ofJson?

end ResultMap

end ConfigCoverage
