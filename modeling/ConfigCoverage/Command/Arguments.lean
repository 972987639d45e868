import ConfigCoverage.Command.Invocation

/-!
# Arguments

The arguments of the program: options of one kind for all commands, the name of a command, and its own options and
operands.

* `Invocation.ofArguments?`: what some arguments ask for, or nothing if they are misused.
-/

namespace ConfigCoverage

/-- What an option takes. -/
inductive OptionArity where
  /-- Given once at most, without a value. -/
  | flag
  /-- Given any number of times, without a value. -/
  | counter
  /-- Given once at most, with a value. -/
  | single
  /-- Given any number of times, each with a value. -/
  | repeated
deriving DecidableEq, Repr

/-- What a value must be. -/
inductive ValueKind where
  | text
  /-- A text that is not empty. -/
  | path
  /-- A number below 2^64. -/
  | count
deriving DecidableEq, Repr

/-- An option, with the texts by which it is known. -/
structure OptionSpec where
  name : String
  letter : Option Char := none
  arity : OptionArity
  kind : ValueKind := .text
deriving DecidableEq, Repr

/-- An option that was given. -/
structure Occurrence where
  name : String
  value : String := ""
deriving DecidableEq, Repr

/-! ## Values -/

/-- A number in decimal digits, perhaps after a plus sign. -/
def readCount? (text : String) : Option Nat :=
  let digits :=
    match text.toList with
    | '+' :: rest => rest
    | cs => cs
  if digits.isEmpty || !digits.all Char.isDigit then none
  else
    let n := digits.foldl (fun n c => 10 * n + (c.toNat - '0'.toNat)) 0
    if n < 0x10000000000000000 then some n else none

/-- Is a text a value of a kind? -/
def ValueKind.accepts (kind : ValueKind) (text : String) : Bool :=
  match kind with
  | .text => true
  | .path => text ≠ ""
  | .count => (readCount? text).isSome

/-! ## Options -/

/-- Does an option take a value? -/
def OptionArity.takesValue : OptionArity → Bool
  | flag | counter => false
  | single | repeated => true

/-- Does an argument look like an option? A dash alone is a value. -/
def looksLikeOption (arg : String) : Bool := arg.toList.head? == some '-' && arg ≠ "-"

/-- The options of a group of letters. -/
def readLetters? (specs : List OptionSpec) (letters : List Char) : Option (List Occurrence) :=
  letters.mapM fun c =>
    (specs.find? fun s => s.letter == some c && !s.arity.takesValue).map fun s => { name := s.name }

/-- The name of a long option, and the value that is joined to it. -/
def splitLong (cs : List Char) : String × Option String :=
  let name := cs.takeWhile (· != '=')
  match cs.drop name.length with
  | [] => (String.ofList name, none)
  | _ :: value => (String.ofList name, some (String.ofList value))

/-- What stands in a list of arguments: options, and operands. -/
structure Arguments where
  options : List Occurrence := []
  operands : List String := []
deriving DecidableEq, Repr

/-- Add an option in front. -/
def Arguments.withOption (a : Arguments) (o : Occurrence) : Arguments := { a with options := o :: a.options }

/-- Add an operand in front. -/
def Arguments.withOperand (a : Arguments) (text : String) : Arguments := { a with operands := text :: a.operands }

/-- Read arguments. If `stopAtOperand` holds, the first operand and all after it are left as operands, and options must
come to an end by themselves; otherwise two dashes make operands of all that follows. -/
def readArguments? (specs : List OptionSpec) (stopAtOperand : Bool) : List String → Option Arguments
  | [] => some {}
  | arg :: rest =>
    if !looksLikeOption arg then
      if stopAtOperand then some { operands := arg :: rest }
      else (readArguments? specs stopAtOperand rest).map (·.withOperand arg)
    else if arg = "--" then
      if stopAtOperand then none else some { operands := rest }
    else
      match arg.toList with
      | '-' :: '-' :: long =>
        let (name, joined) := splitLong long
        match specs.find? (·.name == name) with
        | none => none
        | some spec =>
          match spec.arity.takesValue, joined with
          | false, some _ => none
          | false, none => (readArguments? specs stopAtOperand rest).map (·.withOption { name })
          | true, some value => (readArguments? specs stopAtOperand rest).map (·.withOption { name, value })
          | true, none =>
            match rest with
            | [] => none
            | value :: rest =>
              if looksLikeOption value then none
              else (readArguments? specs stopAtOperand rest).map (·.withOption { name, value })
      | letters =>
        (readLetters? specs (letters.drop 1)).bind fun os =>
          (readArguments? specs stopAtOperand rest).map fun a => { a with options := os ++ a.options }

namespace Arguments

/-- The values of an option. -/
def values (a : Arguments) (name : String) : List String :=
  (a.options.filter (·.name == name)).map Occurrence.value

/-- Is an option given? -/
def has (a : Arguments) (name : String) : Bool := a.options.any (·.name == name)

/-- The value of an option. -/
def value? (a : Arguments) (name : String) : Option String := (a.values name).head?

/-- The number that an option gives. -/
def count? (a : Arguments) (name : String) : Option Nat := (a.value? name).bind readCount?

/-- Are options given as often as they may be, with values of their kinds? -/
def fits (a : Arguments) (spec : OptionSpec) : Bool :=
  let values := a.values spec.name
  match spec.arity with
  | .flag => values.length ≤ 1
  | .counter => true
  | .single => values.length ≤ 1 && values.all spec.kind.accepts
  | .repeated => values.all spec.kind.accepts

end Arguments

/-- Read arguments and check what is given. -/
def checkedArguments? (specs : List OptionSpec) (stopAtOperand : Bool) (args : List String) : Option Arguments :=
  (readArguments? specs stopAtOperand args).filter fun a => specs.all a.fits

/-! ## Commands -/

/-- The options of all commands. -/
def commonOptions : List OptionSpec :=
  [{ name := "config", arity := .single, kind := .path },
   { name := "quiet", letter := some 'q', arity := .flag },
   { name := "verbose", letter := some 'v', arity := .counter }]

/-- The options of `analyze`. -/
def analyzeOptions : List OptionSpec :=
  [{ name := "module", arity := .single },
   { name := "json", arity := .flag }]

/-- The options of `scan`. -/
def scanOptions : List OptionSpec :=
  [{ name := "module", arity := .single },
   { name := "include", arity := .repeated },
   { name := "exclude", arity := .repeated },
   { name := "jobs", arity := .single, kind := .count },
   { name := "include-hidden", arity := .flag },
   { name := "follow-symlinks", arity := .flag },
   { name := "max-depth", arity := .single, kind := .count },
   { name := "respect-gitignore", arity := .flag },
   { name := "json", arity := .flag },
   { name := "output-json", arity := .single, kind := .path },
   { name := "fail-on-error", arity := .flag }]

/-- The options of `coverage`. -/
def coverageOptions : List OptionSpec :=
  [{ name := "catalog", arity := .single, kind := .path },
   { name := "repo", arity := .single, kind := .path },
   { name := "test-root", arity := .single },
   { name := "module", arity := .repeated },
   { name := "skip", arity := .repeated },
   { name := "exclude-property", arity := .repeated },
   { name := "jobs", arity := .single, kind := .count },
   { name := "json", arity := .flag },
   { name := "output-json", arity := .single, kind := .path },
   { name := "fail-on-untested", arity := .flag },
   { name := "fail-on-error", arity := .flag }]

/-- The one operand, which is a path. -/
def onlyOperand? (a : Arguments) : Option String :=
  match a.operands with
  | [path] => if path = "" then none else some path
  | _ => none

namespace Command

/-- The command of the arguments of `analyze`; the file and the module are required. -/
def analyzeOf? (a : Arguments) : Option Command :=
  match onlyOperand? a, a.value? "module" with
  | some file, some module => some (.analyze ⟨file, module, a.has "json"⟩)
  | _, _ => none

/-- The command of the arguments of `scan`; the directory and the module are required. -/
def scanOf? (a : Arguments) : Option Command :=
  match onlyOperand? a, a.value? "module" with
  | some directory, some module =>
    some (.scan
      { directory, module
        includes := a.values "include"
        excludes := a.values "exclude"
        workers := a.count? "jobs"
        walk :=
          { includeHidden := a.has "include-hidden"
            followLinks := a.has "follow-symlinks"
            maxDepth := a.count? "max-depth"
            respectIgnored := a.has "respect-gitignore" }
        json := a.has "json"
        document := a.value? "output-json"
        failOnError := a.has "fail-on-error" })
  | _, _ => none

/-- The command of the arguments of `coverage`; the catalog and the repository are required. -/
def coverageOf? (a : Arguments) : Option Command :=
  match a.operands, a.value? "catalog", a.value? "repo" with
  | [], some catalog, some repository =>
    some (.coverage
      { catalog, repository
        testRoot := a.value? "test-root"
        modules := a.values "module"
        skip := a.values "skip"
        excludeProperties := a.values "exclude-property"
        workers := a.count? "jobs"
        json := a.has "json"
        document := a.value? "output-json"
        failOnUntested := a.has "fail-on-untested"
        failOnError := a.has "fail-on-error" })
  | _, _, _ => none

/-- The options of a command by its name, and how it is made of arguments. -/
def named? (name : String) : Option (List OptionSpec × (Arguments → Option Command)) :=
  if name = "analyze" then some (analyzeOptions, analyzeOf?)
  else if name = "scan" then some (scanOptions, scanOf?)
  else if name = "coverage" then some (coverageOptions, coverageOf?)
  else none

end Command

/-- What arguments ask for. The common options may stand before the name of the command and after it; of two files with
settings the one after it counts. -/
def Invocation.ofArguments? (args : List String) : Option Invocation := do
  let outer ← checkedArguments? commonOptions true args
  match outer.operands with
  | [] => none
  | name :: rest =>
    let (options, make) ← Command.named? name
    let inner ← checkedArguments? (commonOptions ++ options) false rest
    let command ← make inner
    some ⟨(inner.value? "config").orElse fun _ => outer.value? "config", inner.has "quiet" || outer.has "quiet", command⟩

end ConfigCoverage
