import ConfigCoverage.FileTree.Analysis
import ConfigCoverage.FileTree.Write
import ConfigCoverage.Json.Value

/-!
# Actions

A command is a sequence of actions. Each of them reads the files, prints, or writes, and ends with a value or with a
fault. A fault takes nothing back: what was printed and written before it stays.

* `Fault`: why a command ends early.
* `World`: what a run sees and changes.
* `Action`: a step of a run.
* `mapWorkers`: work on many items, by several workers.
* `writeDocument`: write a document that was asked for.
-/

namespace ConfigCoverage

/-- Why a command ends early. -/
inductive Fault where
  | settings (path : String)
  /-- The settings give no rules. -/
  | rules (e : Failure)
  | file (f : FileFault)
  /-- The path leads nowhere. -/
  | noPath (path : String)
  | notDirectory (path : String)
  | invalidGlob (text : String)
  | noWorkers
  /-- The workers cannot be started. -/
  | noPool (reason : String)
  | catalog (e : Failure)
  | unknownModule (name : String)
  | noDocumentDirectory (e : FileError)
  | noDocument (path : String)
deriving DecidableEq, Repr

/-- The text of a fault. -/
def Fault.message : Fault → String
  | settings path => "failed to load config " ++ path
  | rules e => e.message
  | file f => f.summary
  | noPath path => "failed to canonicalize " ++ path
  | notDirectory path => "Input '" ++ path ++ "' is not a directory"
  | invalidGlob text => "error parsing glob '" ++ text ++ "'"
  | noWorkers => "--jobs must be at least 1"
  | noPool reason => reason
  | catalog e => e.message
  | unknownModule name => "module " ++ name ++ " is not in the catalog"
  | noDocumentDirectory e => e.message
  | noDocument path => "failed to create " ++ path

/-- Is the fault about the document that was to be written? -/
def Fault.isAboutDocument : Fault → Bool
  | noDocumentDirectory _ | noDocument _ => true
  | _ => false

/-! ## Steps -/

/-- What a run is given besides the files. -/
structure Host where
  processors : Nat := 1
  /-- Why a pool of so many workers cannot be started, if it cannot. -/
  poolFailure? : Nat → Option String := fun _ => none

/-- What a run sees and changes: the host, the files, and what was printed. -/
structure World where
  host : Host := {}
  files : FileTree
  output : String := ""

/-- A step of a run. With a value or with a fault, it leaves a world behind. -/
def Action (α : Type) : Type := World → Except Fault α × World

/-- One step after the other. A fault ends both, in the world that it finds. -/
instance : Monad Action where
  pure a := fun w => (.ok a, w)
  bind x f := fun w =>
    match x w with
    | (.ok a, w) => f a w
    | (.error fault, w) => (.error fault, w)

/-- End with a fault. -/
def fail {α : Type} (fault : Fault) : Action α := fun w => (.error fault, w)

/-- Go on with a value, or end with the fault in its place. -/
def check {α : Type} (x : Except Fault α) : Action α := fun w => (x, w)

/-- The host of the run. -/
def getHost : Action Host := fun w => (.ok w.host, w)

/-- The files as they are. -/
def getFiles : Action FileTree := fun w => (.ok w.files, w)

/-- Print a text. -/
def print (text : String) : Action Unit := fun w => (.ok (), { w with output := w.output ++ text })

/-- Print a line. -/
def printLine (line : String) : Action Unit := print (line ++ "\n")

/-! ## Workers -/

/-- How many workers to use: as many as asked for, or one for each processor. -/
def resolveWorkers : Option Nat → Action Nat
  | some 0 => fail .noWorkers
  | some n => pure n
  | none => do return max 1 (← getHost).processors

/-- Do one thing with every item, in a pool if there are several workers. The values are in the order of the items. -/
def mapWorkers {α β : Type} (items : List α) (workers : Nat) (f : α → β) : Action (List β) :=
  if items.isEmpty then pure []
  else if workers ≤ 1 then pure (items.map f)
  else do
    match (← getHost).poolFailure? workers with
    | some reason => fail (.noPool reason)
    | none => return items.map f

/-! ## Documents -/

/-- Make a directory, and those above it. Those that were made before something goes amiss stay. -/
def makeDirectories (path : String) : Action Unit := fun w =>
  match w.files.makeAll path with
  | (none, files) => (.ok (), { w with files })
  | (some e, files) => (.error (.noDocumentDirectory e), { w with files })

/-- Make a file, or replace the contents of the one that is there. -/
def writeFile (path : String) (contents : ByteArray) : Action Unit := fun w =>
  match w.files.write path contents with
  | .ok files => (.ok (), { w with files })
  | .error _ => (.error (.noDocument path), w)

/-- Write a value to a file, and make the directories above it before. -/
def writeJson (path : String) (value : Json.Value) : Action Unit := do
  let directory := (Path.parent? path).getD ""
  if directory ≠ "" then
    makeDirectories directory
  writeFile path value.pretty.toUTF8

/-- Write a value to the document, if one was asked for. -/
def writeDocument (document : Option String) (value : Json.Value) : Action Unit :=
  match document with
  | none => pure ()
  | some path => writeJson path value

end ConfigCoverage
