/-!
# Paths

A path is a text with slashes between its components. Empty components count for nothing, nor does a dot after the
first component.

* `components`, `fileName?`, `extension?`: the parts of a path.
* `join`, `parent?`: a path taken from inside another, and the path above one.
-/

namespace ConfigCoverage.Path

/-- A component of a path. -/
inductive Component where
  | root
  /-- A dot at the start. -/
  | current
  | parent
  | normal (name : String)
deriving DecidableEq, Repr

/-- Does a path start at the root? -/
def isAbsolute (path : String) : Bool := path.toList.head? == some '/'

/-- The characters between slashes. -/
def splitChars : List Char → List (List Char)
  | [] => [[]]
  | c :: cs =>
    if c = '/' then [] :: splitChars cs
    else
      match splitChars cs with
      | [] => [[c]]
      | text :: texts => (c :: text) :: texts

/-- The texts between slashes. -/
def splitSlashes (path : String) : List String := (splitChars path.toList).map String.ofList

/-- The components after the first text. -/
def laterComponents (texts : List String) : List Component :=
  texts.filterMap fun t =>
    if t = "" ∨ t = "." then none
    else if t = ".." then some .parent
    else some (.normal t)

/-- The components of a path. -/
def components (path : String) : List Component :=
  let texts := splitSlashes path
  if isAbsolute path then .root :: laterComponents texts
  else if texts.head? = some "." then .current :: laterComponents texts
  else laterComponents texts

/-- The last component, if it is a name. -/
def fileName? (path : String) : Option String :=
  match (components path).getLast? with
  | some (.normal name) => some name
  | _ => none

/-- What stands before and after the last dot of a name. A dot at its start does not count. -/
def splitExtension (name : String) : String × Option String :=
  let reversed := name.toList.reverse
  let tail := reversed.takeWhile (· != '.')
  match reversed.drop tail.length with
  | _ :: stem =>
    if stem.isEmpty then (name, none) else (String.ofList stem.reverse, some (String.ofList tail.reverse))
  | [] => (name, none)

/-- The extension of the file that a path names. -/
def extension? (path : String) : Option String := (fileName? path).bind fun name => (splitExtension name).2

/-- The path `rest` taken from inside `base`. -/
def join (base rest : String) : String :=
  if isAbsolute rest then rest
  else if base = "" ∨ base.toList.getLast? = some '/' then base ++ rest
  else base ++ "/" ++ rest

/-- The text of a component. -/
def Component.text : Component → String
  | root => ""
  | current => "."
  | parent => ".."
  | normal name => name

/-- The path of some components. -/
def ofComponents (components : List Component) : String :=
  if components = [.root] then "/" else String.intercalate "/" (components.map Component.text)

/-- The path without its last component. -/
def parent? (path : String) : Option String :=
  match (components path).getLast? with
  | none | some .root => none
  | some _ => some (ofComponents (components path).dropLast)

end ConfigCoverage.Path
