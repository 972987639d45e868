import ConfigCoverage.Command.Arguments
import ConfigCoverage.Command.Coverage
import ConfigCoverage.Command.Scan

/-!
# Running a command

* `run`: what comes of arguments over a tree of files.
-/

namespace ConfigCoverage

/-- How a run ends. -/
inductive Ending where
  | finished (status : Nat)
  | failed (fault : Fault)
  /-- The arguments ask for nothing. -/
  | misused
deriving DecidableEq, Repr

/-- The status of an ending. -/
def Ending.status : Ending → Nat
  | finished status => status
  | failed _ => 1
  | misused => 2

/-- What a run leaves behind. -/
structure Outcome where
  ending : Ending
  output : String
  files : FileTree

/-- What is left behind when the last action ends. -/
def Outcome.ofResult : Except Fault Nat × World → Outcome
  | (.ok status, w) => ⟨.finished status, w.output, w.files⟩
  | (.error fault, w) => ⟨.failed fault, w.output, w.files⟩

/-- Analyse a file, and print what it sets. -/
def AnalyzeCommand.run (c : AnalyzeCommand) (rules : Rules) : Action Nat := do
  let t ← getFiles
  let results ← check ((analyzeFile t rules ⟨c.module⟩ c.file).mapError .file)
  if c.json then printLine results.render else (results.lines "").forM printLine
  return 0

/-- Do what a command asks for. -/
def Command.run (c : Command) (s : Settings) (rules : Rules) (quiet : Bool) : Action Nat :=
  match c with
  | .analyze c => c.run rules
  | .scan c => c.run rules quiet
  | .coverage c => c.run s rules quiet

namespace Invocation

/-- The settings of an invocation. -/
def readSettings (i : Invocation) (t : FileTree) : Except Fault Settings :=
  match i.settings with
  | none => .ok {}
  | some path => (Settings.ofFile t path).mapError fun _ => .settings path

/-- Do what an invocation asks for. Settings come before all else. -/
def action (i : Invocation) : Action Nat := do
  let t ← getFiles
  let s ← check (i.readSettings t)
  let rules ← check (s.rules.mapError .rules)
  i.command.run s rules i.quiet

/-- What comes of an invocation over a tree of files. -/
def run (i : Invocation) (t : FileTree) (host : Host := {}) : Outcome := .ofResult (i.action { host, files := t })

end Invocation

/-- What comes of arguments over a tree of files. -/
def run (t : FileTree) (args : List String) (host : Host := {}) : Outcome :=
  match Invocation.ofArguments? args with
  | none => ⟨.misused, "", t⟩
  | some i => i.run t host

end ConfigCoverage
