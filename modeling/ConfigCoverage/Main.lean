import ConfigCoverage.Command.Run

/-!
# The program

The part of the disk that an invocation speaks of is read into a tree of files, the command runs over that, and what it
prints and writes is carried out.
-/

namespace ConfigCoverage

/-- What is at a path of the disk, as far as it can be read. A link leads to the real path; a directory is read with all
that is in it if `deep` holds. -/
partial def readNode (deep : Bool) (path : String) : IO (Option FileNode) := do
  try
    let place ← IO.FS.realPath path
    match (← place.metadata).type with
    | .dir =>
      if !deep then return some (.directory [])
      let mut entries := #[]
      for entry in ← place.readDir do
        let inner := entry.path
        match (← inner.symlinkMetadata).type with
        | .symlink =>
          let target ← try pure (← IO.FS.realPath inner).toString catch _ => pure inner.toString
          entries := entries.push (entry.fileName, .link target)
        | _ =>
          if let some node ← readNode deep inner.toString then
            entries := entries.push (entry.fileName, node)
      return some (.directory entries.toList)
    | _ => return some (.file (← IO.FS.readBinFile place))
  catch _ => return none

/-- Put a node at a path from the root. What is there stays, but for a directory that was not read in full. -/
def placeNode (t : FileTree) (path : String) (node : FileNode) : FileTree :=
  match t.makeDirectories ((Path.parent? path).getD "/") with
  | .error _ => t
  | .ok t =>
    match t.locateIn false [] path, node with
    | .ok (.missing directory name), _ => t.put directory name node
    | .ok (.present place), .directory (_ :: _) =>
      match place.getLast? with
      | some name => t.put place.dropLast name node
      | none => t
    | _, _ => t

/-- Put what is at a path of the disk into a tree. A path through links leads to the real one. -/
def loadPath (deep : Bool) (t : FileTree) (path : String) : IO FileTree := do
  match ← readNode deep path with
  | none => return t
  | some node =>
    let full := Path.join (FileTree.pathOf t.current) path
    let real := (← IO.FS.realPath path).toString
    let t := placeNode t real node
    return if real = full then t else placeNode t full (.link real)

/-- The paths above a path, and the path itself. -/
def pathsTo (path : String) : List String :=
  let components := Path.components path
  (List.range components.length).map fun n => Path.ofComponents (components.take (n + 1))

/-- The files of rules that may speak of what is in a directory. -/
def ignoreFilesAbove (directory : String) : List String :=
  (pathsTo directory).flatMap fun p => [".ignore", ".gitignore", ".git/info/exclude"].map (Path.join p)

/-- Read what an invocation speaks of. -/
def loadFiles (i : Invocation) : IO FileTree := do
  let current := (← IO.FS.realPath (← IO.currentDir)).toString
  let mut t : FileTree := ⟨.directory [], []⟩
  t := match t.makeDirectories current with
    | .ok made => ⟨made.root, (made.resolveIn [] current).toOption.getD []⟩
    | .error _ => t
  for path in i.settings.toList do
    t ← loadPath true t path
  let mut document := none
  match i.command with
  | .analyze c => t ← loadPath true t c.file
  | .scan c =>
    t ← loadPath true t c.directory
    for path in ignoreFilesAbove (t.canonical c.directory |>.toOption.getD c.directory) do
      t ← loadPath true t path
    document := c.document
  | .coverage c =>
    t ← loadPath true t c.catalog
    t ← loadPath true t c.repository
    document := c.document
  for path in document.toList.flatMap pathsTo do
    t ← loadPath false t path
  return t

/-- Write the document of a finished run to the disk. -/
def saveDocument (i : Invocation) (o : Outcome) : IO Unit := do
  match i.command.document?, o.ending with
  | some path, .finished _ =>
    match o.files.read path with
    | .ok contents =>
      if let some directory := Path.parent? path then
        if directory ≠ "" then IO.FS.createDirAll directory
      IO.FS.writeBinFile path contents
    | .error _ => pure ()
  | _, _ => pure ()

end ConfigCoverage

open ConfigCoverage in
/-- Run the program with arguments. -/
def main (args : List String) : IO UInt32 := do
  match Invocation.ofArguments? args with
  | none =>
    IO.eprintln "usage: analyze FILE --module ID | scan DIRECTORY --module ID | coverage --catalog FILE --repo DIRECTORY"
    return Ending.misused.status.toUInt32
  | some i =>
    let o := i.run (← loadFiles i)
    IO.print o.output
    if let .failed fault := o.ending then
      IO.eprintln ("Error: " ++ fault.message)
    saveDocument i o
    return o.ending.status.toUInt32
