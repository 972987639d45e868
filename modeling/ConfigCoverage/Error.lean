import ConfigCoverage.Text.Quoted

/-!
# Failures

Why an analysis has no answer, and the text of each cause.
-/

namespace ConfigCoverage

/-- What a failure is about. -/
inductive FailureKind where
  | malformedInput
  | configuration
  | unsupportedLanguage
  | json
  | toml
deriving DecidableEq, Repr

/-- The cause of a failure. -/
inductive Failure where
  /-- No module to look for was set. -/
  | noModule
  /-- A method has a blank name. -/
  | namelessMethod (file : String) (line : Nat)
  /-- The source does not parse. -/
  | syntaxError (file : String) (line : Nat)
  /-- The rule for setters has no text to start with. -/
  | emptySetterPrefix
  /-- The pattern for test names is none. -/
  | invalidPattern (pattern : String) (reason : String)
  /-- No language goes with the path. -/
  | noLanguage (path : String)
  | unreadableCatalog (path reason : String)
  | unreadableSettings (path reason : String)
  /-- The text is no JSON of the expected shape. -/
  | invalidJson
  /-- The text is no TOML of the expected shape. -/
  | invalidToml
deriving DecidableEq, Repr

namespace Failure

/-- What a failure is about. -/
def kind : Failure → FailureKind
  | noModule => .configuration
  | namelessMethod _ _ => .malformedInput
  | syntaxError _ _ => .malformedInput
  | emptySetterPrefix => .configuration
  | invalidPattern _ _ => .configuration
  | noLanguage _ => .unsupportedLanguage
  | unreadableCatalog _ _ => .configuration
  | unreadableSettings _ _ => .configuration
  | invalidJson => .json
  | invalidToml => .toml

/-- The words of a cause, without what it is about. -/
def detail : Failure → String
  | noModule => "no module identifier configured"
  | namelessMethod file line => file ++ ": method without a name at line " ++ toString line
  | syntaxError file line => file ++ ": syntax error near line " ++ toString line
  | emptySetterPrefix => "setter_prefix must not be empty"
  | invalidPattern pattern reason => "invalid test name pattern " ++ quoted pattern ++ ": " ++ reason
  | noLanguage path => path
  | unreadableCatalog path reason => "cannot read catalog " ++ path ++ ": " ++ reason
  | unreadableSettings path reason => "cannot read " ++ path ++ ": " ++ reason
  | invalidJson => ""
  | invalidToml => ""

/-- The text of a failure. -/
def message (e : Failure) : String :=
  (match e.kind with
    | .malformedInput => "Malformed input: "
    | .configuration => "Configuration error: "
    | .unsupportedLanguage => "No front-end for source file: "
    | .json => "JSON error"
    | .toml => "TOML error") ++ e.detail

end Failure

/-- What comes of something that may fail can be told by comparing options. -/
theorem eq_ok_of_toOption {ε α : Type} {x : Except ε α} {a : α} (h : x.toOption = some a) : x = .ok a := by
  cases x with
  | error e => cases h
  | ok b => exact congrArg Except.ok (Option.some.inj h)

end ConfigCoverage
