import ConfigCoverage.Binding
import ConfigCoverage.Error
import ConfigCoverage.Json.Parser
import ConfigCoverage.Json.Reader

/-!
# The catalog of modules

A catalog lists the modules that are known, and the properties that each of them declares.

* `Catalog.get?`: a module by its full or its simple name.
* `Catalog.render`, `Catalog.ofText`: writing and reading a catalog.
-/

namespace ConfigCoverage

/-- A module with the properties it declares. The full name may be empty; properties may stand twice. -/
structure ModuleInfo where
  name : String
  fullName : String
  properties : List String
deriving DecidableEq, Repr, Inhabited

/-- Each text where it stands first. -/
def firstOccurrences (texts : List String) : List String :=
  texts.foldl (fun seen t => if seen.contains t then seen else seen ++ [t]) []

namespace ModuleInfo

/-- A module by its full name, which ends with its simple name. -/
def ofFullName (fullName : String) (properties : List String) : ModuleInfo :=
  ⟨simpleTypeName fullName, fullName, properties⟩

/-- What the analysis looks for: the full name, if there is one. -/
def identifier (m : ModuleInfo) : String := if m.fullName = "" then m.name else m.fullName

/-- The declared properties, each where it stands first. -/
def propertyNames (m : ModuleInfo) : List String := firstOccurrences m.properties

/-- A module as a record; a property is a record of its name. -/
def toJson (m : ModuleInfo) : Json.Value :=
  .object [("name", .string m.name), ("fullName", .string m.fullName),
    ("properties", .array (m.properties.map fun p => .object [("name", .string p)]))]

/-- Read the name of a property. -/
def propertyOfJson? (v : Json.Value) : Option String :=
  match v.record? ["name"] with
  | some [some name] => name.text?
  | _ => none

/-- Read a module; only the simple name is needed. -/
def ofJson? (v : Json.Value) : Option ModuleInfo :=
  match v.record? ["name", "fullName", "properties"] with
  | some [some name, fullName, properties] =>
    match name.text?, (fullName.getD (.string "")).text?, (properties.getD (.array [])).list? propertyOfJson? with
    | some name, some fullName, some properties => some ⟨name, fullName, properties⟩
    | _, _, _ => none
  | _ => none

end ModuleInfo

/-- All modules that are known. -/
structure Catalog where
  modules : List ModuleInfo
deriving DecidableEq, Repr

namespace Catalog

/-- The first module with this full name, or else with this simple name. -/
def get? (c : Catalog) (name : String) : Option ModuleInfo :=
  (c.modules.find? fun m => m.fullName == name).orElse fun _ => c.modules.find? fun m => m.name == name

/-- A catalog as a list of modules. -/
def toJson (c : Catalog) : Json.Value := .array (c.modules.map ModuleInfo.toJson)

/-- Read a catalog. -/
def ofJson? (v : Json.Value) : Option Catalog := (v.list? ModuleInfo.ofJson?).map Catalog.mk

/-- The text of a catalog. -/
def render (c : Catalog) : String := c.toJson.compact

/-- The catalog that a text writes. -/
def ofText (text : String) : Except Failure Catalog :=
  match (Json.parse? text).bind ofJson? with
  | some c => .ok c
  | none => .error .invalidJson

end Catalog

end ConfigCoverage
