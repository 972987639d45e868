import ConfigCoverage.Path

/-!
# A tree of files

Files, directories and links under one root, and a working directory. A path is followed from name to name; a link on
the way is replaced by what it points to.

* `FileTree.locate`: where a path leads.
* `FileTree.read`, `FileTree.canonical`, `FileTree.isFile`, `FileTree.isDirectory`: what is found there.
-/

namespace ConfigCoverage

/-- What a directory holds under a name. -/
inductive FileNode where
  | file (contents : ByteArray)
  | directory (entries : List (String × FileNode))
  /-- A link to a path, which is taken from the directory of the link. -/
  | link (target : String)
deriving Inhabited

/-- Why a file or a directory cannot be used. -/
inductive FileError where
  | notFound
  | alreadyExists
  | notDirectory
  | isDirectory
  | nameTooLong
  | tooManyLinks
  /-- A text that is not valid UTF-8. -/
  | notText
deriving DecidableEq, Repr

/-- The text of a cause. -/
def FileError.message : FileError → String
  | notFound => "No such file or directory (os error 2)"
  | alreadyExists => "File exists (os error 17)"
  | notDirectory => "Not a directory (os error 20)"
  | isDirectory => "Is a directory (os error 21)"
  | nameTooLong => "File name too long (os error 36)"
  | tooManyLinks => "Too many levels of symbolic links (os error 40)"
  | notText => "stream did not contain valid UTF-8"

/-- The names from the root to a place in the tree; no link is on the way. -/
abbrev Place := List String

/-- What a path says at one of its texts. -/
inductive Step where
  | name (text : String)
  | up
  | here
deriving DecidableEq, Repr

/-- The steps of a path. One with a slash at its end leads to a directory. -/
def stepsOf (path : String) : List Step :=
  ((Path.splitSlashes path).filter (· ≠ "")).map
      (fun t => if t = "." then .here else if t = ".." then .up else .name t) ++
    (if path.toList.getLast? = some '/' then [.here] else [])

/-- All files, and the working directory. -/
structure FileTree where
  root : FileNode
  current : Place

namespace FileNode

/-- The node at a place. -/
def get? : Place → FileNode → Option FileNode
  | [], n => some n
  | name :: rest, .directory entries => (entries.lookup name).bind (get? rest)
  | _ :: _, _ => none

/-- Change the entries of the directory at a place. -/
def modify (f : List (String × FileNode) → List (String × FileNode)) : Place → FileNode → FileNode
  | [], .directory entries => .directory (f entries)
  | name :: rest, .directory entries =>
    .directory (entries.map fun (n, child) => if n = name then (n, modify f rest child) else (n, child))
  | _, n => n

end FileNode

/-- Put a node under a name, in place of what is there. -/
def putEntry (name : String) (node : FileNode) (entries : List (String × FileNode)) : List (String × FileNode) :=
  if entries.any (·.1 == name) then entries.map fun e => if e.1 = name then (name, node) else e
  else entries ++ [(name, node)]

/-- Where a path leads. -/
inductive Target where
  | present (place : Place)
  /-- Only the last name is not there. -/
  | missing (directory : Place) (name : String)
deriving DecidableEq, Repr

/-- Where following a path comes to a halt. -/
inductive Halt where
  | target (t : Target)
  | failed (e : FileError)
  /-- At a link in `directory`, with steps left. -/
  | link (directory : Place) (target : String) (rest : List Step)

namespace FileTree

/-- The longest name of a file, in bytes. -/
def maxNameLength : Nat := 255

/-- The most links that are followed for one path. -/
def maxLinks : Nat := 40

/-- The node at a place. -/
def get? (t : FileTree) (place : Place) : Option FileNode := t.root.get? place

/-- Follow steps up to the first link. A link at the very end counts only if `followLast` holds. -/
def advance (t : FileTree) (followLast : Bool) : Place → List Step → Halt
  | place, [] => .target (.present place)
  | place, step :: rest =>
    match t.get? place with
    | some (.directory entries) =>
      match step with
      | .here => advance t followLast place rest
      | .up => advance t followLast place.dropLast rest
      | .name n =>
        if maxNameLength < n.utf8ByteSize then .failed .nameTooLong
        else
          match entries.lookup n with
          | none => if rest.isEmpty then .target (.missing place n) else .failed .notFound
          | some (.link target) =>
            if rest.isEmpty && !followLast then .target (.present (place ++ [n])) else .link place target rest
          | some _ => advance t followLast (place ++ [n]) rest
    | _ => .failed .notDirectory

/-- Follow steps, through `links` links at most. -/
def locateFrom (t : FileTree) (followLast : Bool) (links : Nat) (place : Place) (steps : List Step) :
    Except FileError Target :=
  match t.advance followLast place steps with
  | .target target => .ok target
  | .failed e => .error e
  | .link directory target rest =>
    match links with
    | 0 => .error .tooManyLinks
    | links + 1 =>
      t.locateFrom followLast links (if Path.isAbsolute target then [] else directory) (stepsOf target ++ rest)

/-- Where a path leads, taken from a place. -/
def locateIn (t : FileTree) (followLast : Bool) (place : Place) (path : String) : Except FileError Target :=
  if path = "" then .error .notFound
  else t.locateFrom followLast maxLinks (if Path.isAbsolute path then [] else place) (stepsOf path)

/-- Where a path leads. -/
def locate (t : FileTree) (path : String) : Except FileError Target := t.locateIn true t.current path

/-- The place to which a path leads, taken from a place. -/
def resolveIn (t : FileTree) (place : Place) (path : String) : Except FileError Place :=
  match t.locateIn true place path with
  | .ok (.present place) => .ok place
  | .ok (.missing _ _) => .error .notFound
  | .error e => .error e

/-- The place to which a path leads. -/
def resolve (t : FileTree) (path : String) : Except FileError Place := t.resolveIn t.current path

/-- The node to which a path leads, taken from a place. -/
def nodeIn? (t : FileTree) (place : Place) (path : String) : Option FileNode :=
  (t.resolveIn place path).toOption.bind t.get?

/-- Does a path lead to a file? -/
def isFile (t : FileTree) (path : String) : Bool :=
  match t.nodeIn? t.current path with
  | some (.file _) => true
  | _ => false

/-- Does a path lead to a directory? -/
def isDirectory (t : FileTree) (path : String) : Bool :=
  match t.nodeIn? t.current path with
  | some (.directory _) => true
  | _ => false

/-- A place as a path from the root. -/
def pathOf (place : Place) : String := "/" ++ String.intercalate "/" place

/-- The path from the root, without links, of what a path leads to. -/
def canonical (t : FileTree) (path : String) : Except FileError String := (t.resolve path).map pathOf

/-- The contents of a file, by a path from a place. -/
def readIn (t : FileTree) (place : Place) (path : String) : Except FileError ByteArray :=
  match t.resolveIn place path with
  | .error e => .error e
  | .ok target =>
    match t.get? target with
    | some (.file contents) => .ok contents
    | some (.directory _) => .error .isDirectory
    | _ => .error .notFound

/-- The contents of a file. -/
def read (t : FileTree) (path : String) : Except FileError ByteArray := t.readIn t.current path

/-- The contents of a file of text. -/
def readText (t : FileTree) (path : String) : Except FileError String :=
  match t.read path with
  | .error e => .error e
  | .ok contents =>
    match String.fromUTF8? contents with
    | some text => .ok text
    | none => .error .notText

end FileTree

end ConfigCoverage
