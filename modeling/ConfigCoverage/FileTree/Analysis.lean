import ConfigCoverage.Analysis
import ConfigCoverage.FileTree.Basic
import ConfigCoverage.Language
import ConfigCoverage.Text.Encoding

/-!
# Analysis of a file by its path

* `analyzeFile`: the results of a source file for a module, or why there are none.
-/

namespace ConfigCoverage

/-- Why there are no results for a path. -/
inductive FileFault where
  /-- No language goes with the path. -/
  | unsupported (e : Failure)
  | unreadable (path : String) (e : FileError)
  | undecodable (path : String) (encoding : Encoding)
  | malformed (path : String) (e : Failure)
deriving DecidableEq, Repr

namespace FileFault

/-- What went wrong, without its cause. -/
def summary : FileFault → String
  | unsupported e => e.message
  | unreadable path _ => "failed to read " ++ path
  | undecodable path encoding => "failed to decode " ++ path ++ " using " ++ encoding.name
  | malformed path _ => "failed to analyze " ++ path

/-- What went wrong, and its cause. -/
def message (f : FileFault) : String :=
  match f with
  | unsupported _ | undecodable _ _ => f.summary
  | unreadable _ e => f.summary ++ ": " ++ e.message
  | malformed _ e => f.summary ++ ": " ++ e.message

end FileFault

/-- The results of a source text for a module. -/
def analyzeSource (rules : Rules) (m : ModuleId) (language : Language) (source path : String) :
    Except Failure ResultMap :=
  (language.parse source path).bind (processFile rules (some m))

/-- The results of a source file for a module. -/
def analyzeFile (t : FileTree) (rules : Rules) (m : ModuleId) (path : String) : Except FileFault ResultMap :=
  match Language.ofPath path with
  | .error e => .error (.unsupported e)
  | .ok language =>
    match t.read path with
    | .error e => .error (.unreadable path e)
    | .ok contents =>
      match decodeSource contents.data.toList with
      | .error encoding => .error (.undecodable path encoding)
      | .ok source =>
        match analyzeSource rules m language source path with
        | .error e => .error (.malformed path e)
        | .ok results => .ok results

end ConfigCoverage
