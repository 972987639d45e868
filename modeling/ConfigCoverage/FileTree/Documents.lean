import ConfigCoverage.FileTree.Basic
import ConfigCoverage.Settings

/-!
# Catalogs and settings from files
-/

namespace ConfigCoverage

/-- The catalog that a file writes. -/
def Catalog.ofFile (t : FileTree) (path : String) : Except Failure Catalog :=
  match t.readText path with
  | .ok text => Catalog.ofText text
  | .error e => .error (.unreadableCatalog path e.message)

/-- The settings that a file writes. -/
def Settings.ofFile (t : FileTree) (path : String) : Except Failure Settings :=
  match t.readText path with
  | .ok text => Settings.ofText text
  | .error e => .error (.unreadableSettings path e.message)

end ConfigCoverage
