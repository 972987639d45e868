import ConfigCoverage.IgnoreRules

/-!
# Walking a tree of files

A walk goes through a directory and all those below it, and leaves out what is hidden or what rules say to leave out.

* `FileTree.walk`: all that a walk comes upon.
-/

namespace ConfigCoverage

/-- How to walk. -/
structure WalkOptions where
  includeHidden : Bool := false
  followLinks : Bool := false
  /-- How deep to go; what the directory itself holds is at depth one. -/
  maxDepth : Option Nat := none
  respectIgnored : Bool := false
deriving DecidableEq, Repr

/-- What a walk comes upon. Paths are taken from where it starts. -/
inductive WalkItem where
  | directory (path : String)
  /-- A file, or a link that was not followed. -/
  | file (path : String) (isLink : Bool)
  /-- Something that cannot be visited. -/
  | failure
deriving DecidableEq, Repr

/-- What an entry of a directory is for a walk. -/
inductive WalkEntry where
  | directory (place : Place)
  | file (isLink : Bool)
  | failure

namespace FileNode

mutual

/-- How many directories there are. -/
def directoryCount : FileNode → Nat
  | .directory entries => 1 + entriesCount entries
  | _ => 0

/-- How many directories there are among entries. -/
def entriesCount : List (String × FileNode) → Nat
  | [] => 0
  | (_, node) :: entries => directoryCount node + entriesCount entries

end

end FileNode

namespace FileTree

/-- What an entry is for a walk that came through the directories `above`. A followed link must lead somewhere, and not
back to one of these. -/
def walkEntry (t : FileTree) (options : WalkOptions) (above : List Place) (place : Place) (name : String)
    (node : FileNode) : WalkEntry :=
  match node with
  | .file _ => .file false
  | .directory _ => .directory (place ++ [name])
  | .link target =>
    if options.followLinks then
      match t.resolveIn place target with
      | .error _ => .failure
      | .ok found =>
        match t.get? found with
        | some (.directory _) => if above.contains found then .failure else .directory found
        | _ => .file true
    else .file true

/-- Is an entry left out? Rules decide, and where they say nothing, whether it is hidden. -/
def isLeftOut (options : WalkOptions) (levels : List IgnoreLevel) (path : List String) (name : String)
    (isDirectory : Bool) : Bool :=
  match IgnoreLevel.verdict? levels path isDirectory with
  | some .ignore => true
  | some .keep => false
  | none => !options.includeHidden && name.toList.head? == some '.'

/-- Walk through the directory at a place. The path to it is `start ++ path`, and what it holds is at depth
`path.length + 1`. A walk may come upon a directory again by its name, after a link that led above it; but no link is
followed back to a directory on the way, so that `fuel` bounds how many directories stand one below the other. -/
def walkFrom (t : FileTree) (options : WalkOptions) (start : Place) :
    Nat → List Place → List IgnoreLevel → List String → Place → List WalkItem
  | 0, _, _, _, _ => []
  | fuel + 1, above, levels, path, place =>
    if options.maxDepth.any (· ≤ path.length) then []
    else
      match t.get? place with
      | some (.directory entries) =>
        let above := place :: above
        let levels :=
          if options.respectIgnored then .ofDirectory t place (start.length + path.length) :: levels else levels
        entries.flatMap fun (name, node) =>
          let path := path ++ [name]
          let text := String.intercalate "/" path
          match t.walkEntry options above place name node with
          | .failure => [.failure]
          | .file isLink => if isLeftOut options levels (start ++ path) name false then [] else [.file text isLink]
          | .directory found =>
            if isLeftOut options levels (start ++ path) name true then []
            else .directory text :: walkFrom t options start fuel above levels path found
      | _ => []

/-- The rules of the directories above a place, the nearest first. -/
def levelsAbove (t : FileTree) (place : Place) : List IgnoreLevel :=
  ((List.range place.length).map fun n => IgnoreLevel.ofDirectory t (place.take n) n).reverse

/-- As many directories as can stand one below the other in a walk: a link is followed at most once to each directory,
and as many names lead down from there. -/
def walkDepth (t : FileTree) : Nat := (t.root.directoryCount + 1) * (t.root.directoryCount + 1)

/-- All that a walk through the directory at a place comes upon. -/
def walk (t : FileTree) (options : WalkOptions) (place : Place) : List WalkItem :=
  t.walkFrom options place t.walkDepth []
    (if options.respectIgnored then t.levelsAbove place else []) [] place

end FileTree

end ConfigCoverage
