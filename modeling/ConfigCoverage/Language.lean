import ConfigCoverage.Java.Parser
import ConfigCoverage.Path
import ConfigCoverage.Python.Parser

/-!
# Source languages

* `Language.ofPath`: the language of a file, by its extension.
* `Language.parse`: the program of a source text.
-/

namespace ConfigCoverage

/-- A language in which tests are written. -/
inductive Language where
  | java
  | python
deriving DecidableEq, Repr

namespace Language

/-- The name of a language. -/
def name : Language → String
  | java => "java"
  | python => "python"

/-- The extension of source files, without its dot. -/
def extension : Language → String
  | java => "java"
  | python => "py"

/-- Equality but for the case of ASCII letters. -/
def sameLetters (a b : String) : Bool := a.map Char.toLower == b.map Char.toLower

/-- The language of a file. -/
def ofPath (path : String) : Except Failure Language :=
  let ext := (Path.extension? path).getD ""
  if sameLetters ext java.extension then .ok java
  else if sameLetters ext python.extension then .ok python
  else .error (.noLanguage path)

/-- The program of a source text. -/
def parse (language : Language) (source fileName : String) : Except Failure SourceFile :=
  match language with
  | java => Java.parseFile source fileName
  | python => Python.parseFile source fileName

end Language

end ConfigCoverage
