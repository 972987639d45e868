import ConfigCoverage.FileTree.Basic
import ConfigCoverage.Glob
import ConfigCoverage.Text.Blank

/-!
# Rules for files to leave out

A file of rules has a glob a line, and speaks of the paths below its directory. Of the lines that describe a path the
last one decides.

* `IgnoreRule.ofLine?`: the rule that a line writes.
* `IgnoreRules.verdict?`: what a file of rules says of a path.
* `IgnoreLevel.verdict?`: what the files of rules of a directory and of those above it say.
-/

namespace ConfigCoverage

/-- What rules say of a path. -/
inductive Verdict where
  | ignore
  | keep
deriving DecidableEq, Repr

/-- The rule of a line. -/
structure IgnoreRule where
  glob : Glob
  verdict : Verdict
  /-- Speaks of directories only? -/
  onlyDirectories : Bool

namespace IgnoreRule

/-- Does a text start with another? -/
def startsWith (cs : List Char) (start : String) : Bool := start.toList.isPrefixOf cs

/-- Does a text end with another? -/
def endsWith (cs : List Char) (ending : String) : Bool := ending.toList.isSuffixOf cs

/-- A line without the blanks at its end; one that is escaped stays. -/
def trimLine (cs : List Char) : List Char := if endsWith cs "\\ " then cs else dropEndWhile isBlank cs

/-- The text of the glob: without a slash in it, it may start at any depth; a double star at the end means what is
inside, and not the directory itself. -/
def globText (anchored : Bool) (cs : List Char) : List Char :=
  let cs :=
    if anchored || cs.contains '/' || startsWith cs "**/" || cs == ['*', '*'] then cs else "**/".toList ++ cs
  if endsWith cs "/**" then cs ++ "/*".toList else cs

/-- The rule of a glob; a slash at its end speaks of directories. -/
def ofGlob? (verdict : Verdict) (anchored : Bool) (cs : List Char) : Option IgnoreRule :=
  let onlyDirectories := endsWith cs "/"
  let cs := if onlyDirectories then cs.dropLast else cs
  let cs := if onlyDirectories && endsWith cs "\\" then cs.dropLast else cs
  (Glob.ofString? (String.ofList (globText anchored cs)) false).map fun g => ⟨g, verdict, onlyDirectories⟩

/-- The rule that a line writes. A line is a comment, or blank, or a glob; an exclamation mark keeps what the glob
describes, and a slash in front ties it to the directory. -/
def ofLine? (line : List Char) : Option IgnoreRule :=
  if startsWith line "#" then none
  else
    match trimLine line with
    | [] => none
    | '\\' :: '!' :: rest => ofGlob? .ignore false ('!' :: rest)
    | '\\' :: '#' :: rest => ofGlob? .ignore false ('#' :: rest)
    | '!' :: '/' :: rest => ofGlob? .keep true rest
    | '!' :: rest => ofGlob? .keep false rest
    | '/' :: rest => ofGlob? .ignore true rest
    | cs => ofGlob? .ignore false cs

end IgnoreRule

/-- The rules of a file, in the order of its lines. -/
abbrev IgnoreRules := List IgnoreRule

namespace IgnoreRules

/-- The lines of some bytes, without the bytes that end them. -/
def linesOf (bytes : List UInt8) : List (List UInt8) :=
  match bytes with
  | [] => [[]]
  | b :: rest =>
    if b = 10 then [] :: linesOf rest
    else
      match linesOf rest with
      | [] => [[b]]
      | line :: lines => (b :: line) :: lines

/-- The characters of a line. A carriage return at its end belongs to the line end. -/
def lineChars? (line : List UInt8) : Option (List Char) :=
  (String.fromUTF8? ⟨line.toArray⟩).map fun text =>
    let cs := text.toList
    if cs.getLast? = some '\r' then cs.dropLast else cs

/-- The lines up to the first that is no text. -/
def textLines : List (List UInt8) → List (List Char)
  | [] => []
  | line :: lines =>
    match lineChars? line with
    | some cs => cs :: textLines lines
    | none => []

/-- The rules of the contents of a file. A byte order mark in front counts for nothing. -/
def ofBytes (bytes : List UInt8) : IgnoreRules :=
  (match textLines (linesOf bytes) with
    | [] => []
    | first :: lines => first.dropWhile (· == '\uFEFF') :: lines).filterMap IgnoreRule.ofLine?

/-- The rules of a file; there are none if it cannot be read. -/
def ofFile (t : FileTree) (directory : Place) (path : String) : IgnoreRules :=
  match t.readIn directory path with
  | .ok contents => ofBytes contents.data.toList
  | .error _ => []

/-- What rules say of a path: the last one that describes it decides. -/
def verdict? (rules : IgnoreRules) (path : String) (isDirectory : Bool) : Option Verdict :=
  (rules.reverse.find? fun r => (isDirectory || !r.onlyDirectories) && r.glob.accepts path).map IgnoreRule.verdict

end IgnoreRules

/-- The rules of one directory, from its three files of rules. -/
structure IgnoreLevel where
  /-- How many names lead to the directory. -/
  depth : Nat
  plain : IgnoreRules
  versioned : IgnoreRules
  unshared : IgnoreRules
  /-- Is the directory the top of a repository? -/
  isRepository : Bool

namespace IgnoreLevel

/-- The rules of the directory at a place, to which `depth` names lead. -/
def ofDirectory (t : FileTree) (directory : Place) (depth : Nat) : IgnoreLevel where
  depth
  plain := .ofFile t directory ".ignore"
  versioned := .ofFile t directory ".gitignore"
  unshared := .ofFile t directory ".git/info/exclude"
  isRepository := (t.nodeIn? directory ".git").isSome

/-- What one kind of rules says of a path, at the first of some levels where it says something. -/
def firstVerdict? (rules : IgnoreLevel → IgnoreRules) (levels : List IgnoreLevel) (path : List String)
    (isDirectory : Bool) : Option Verdict :=
  levels.findSome? fun level =>
    (rules level).verdict? (String.intercalate "/" (path.drop level.depth)) isDirectory

/-- The levels up to the top of a repository. -/
def inRepository : List IgnoreLevel → List IgnoreLevel
  | [] => []
  | level :: levels => if level.isRepository then [level] else level :: inRepository levels

/-- What the rules of a directory and of those above it, the nearest first, say of a path. -/
def verdict? (levels : List IgnoreLevel) (path : List String) (isDirectory : Bool) : Option Verdict :=
  (firstVerdict? plain levels path isDirectory).orElse fun _ =>
    (firstVerdict? versioned (inRepository levels) path isDirectory).orElse fun _ =>
      firstVerdict? unshared (inRepository levels) path isDirectory

end IgnoreLevel

end ConfigCoverage
