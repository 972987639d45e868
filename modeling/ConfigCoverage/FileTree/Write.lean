import ConfigCoverage.FileTree.Basic

/-!
# Writing to a tree of files

* `FileTree.write`: make a file, or replace its contents.
* `FileTree.makeAll`: make a directory, and those above it.
-/

namespace ConfigCoverage.FileTree

/-- Put a node under a name of the directory at a place. -/
def put (t : FileTree) (directory : Place) (name : String) (node : FileNode) : FileTree :=
  { t with root := t.root.modify (putEntry name node) directory }

/-- Make a file, or replace the contents of the one that is there. -/
def write (t : FileTree) (path : String) (contents : ByteArray) : Except FileError FileTree :=
  match t.locate path with
  | .error e => .error e
  | .ok (.missing directory name) => .ok (t.put directory name (.file contents))
  | .ok (.present place) =>
    match t.get? place, place.getLast? with
    | some (.file _), some name => .ok (t.put place.dropLast name (.file contents))
    | _, _ => .error .isDirectory

/-- Make a directory. -/
def makeDirectory (t : FileTree) (path : String) : Except FileError FileTree :=
  match t.locateIn false t.current path with
  | .error e => .error e
  | .ok (.missing directory name) => .ok (t.put directory name (.directory []))
  | .ok (.present _) => .error .alreadyExists

/-- Make a directory whose last component comes first in the list. One that is there is as good as a new one; if the
one above it is not there, that is made before it, and stays even if this one cannot be made. -/
def makeFromLast (t : FileTree) : List Path.Component → Option FileError × FileTree
  | [] => (none, t)
  | component :: above =>
    let path := Path.ofComponents (component :: above).reverse
    let settle (t : FileTree) (e : FileError) : Option FileError × FileTree :=
      if t.isDirectory path then (none, t) else (some e, t)
    match t.makeDirectory path with
    | .ok t => (none, t)
    | .error .notFound =>
      match t.makeFromLast above with
      | (some e, t) => (some e, t)
      | (none, t) =>
        match t.makeDirectory path with
        | .ok t => (none, t)
        | .error e => settle t e
    | .error e => settle t e

/-- Make a directory, and those above it: what goes amiss, and the tree with all that was made. -/
def makeAll (t : FileTree) (path : String) : Option FileError × FileTree :=
  t.makeFromLast (Path.components path).reverse

/-- The tree with a directory and those above it. -/
def makeDirectories (t : FileTree) (path : String) : Except FileError FileTree :=
  match t.makeAll path with
  | (none, t) => .ok t
  | (some e, _) => .error e

end ConfigCoverage.FileTree
