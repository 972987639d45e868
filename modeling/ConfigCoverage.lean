import ConfigCoverage.Analysis
import ConfigCoverage.Binding
import ConfigCoverage.Catalog
import ConfigCoverage.Command.Action
import ConfigCoverage.Command.Arguments
import ConfigCoverage.Command.Coverage
import ConfigCoverage.Command.Invocation
import ConfigCoverage.Command.Run
import ConfigCoverage.Command.Scan
import ConfigCoverage.Coverage
import ConfigCoverage.Error
import ConfigCoverage.FileTree.Analysis
import ConfigCoverage.FileTree.Basic
import ConfigCoverage.FileTree.Documents
import ConfigCoverage.FileTree.Walk
import ConfigCoverage.FileTree.Write
import ConfigCoverage.Glob
import ConfigCoverage.Grammar
import ConfigCoverage.IgnoreRules
import ConfigCoverage.Java.Grammar.Basic
import ConfigCoverage.Java.Grammar.Declarations
import ConfigCoverage.Java.Grammar.Expressions
import ConfigCoverage.Java.Grammar.Statements
import ConfigCoverage.Java.Grammar.Types
import ConfigCoverage.Java.Lowering
import ConfigCoverage.Java.Parser
import ConfigCoverage.Java.Token
import ConfigCoverage.Java.Tree
import ConfigCoverage.Json.Parser
import ConfigCoverage.Json.Reader
import ConfigCoverage.Json.Value
import ConfigCoverage.Language
import ConfigCoverage.Main
import ConfigCoverage.Path
import ConfigCoverage.Pattern.Basic
import ConfigCoverage.Pattern.Parser
import ConfigCoverage.Program
import ConfigCoverage.Proofs.Alias
import ConfigCoverage.Proofs.BareBodies
import ConfigCoverage.Proofs.CatalogText
import ConfigCoverage.Proofs.ChainedTargets
import ConfigCoverage.Proofs.Contents
import ConfigCoverage.Proofs.CoverageSums
import ConfigCoverage.Proofs.Effects
import ConfigCoverage.Proofs.Exclusion
import ConfigCoverage.Proofs.FatalFaults
import ConfigCoverage.Proofs.FileOrder
import ConfigCoverage.Proofs.GrammarFuel
import ConfigCoverage.Proofs.GrammarYields
import ConfigCoverage.Proofs.Groupings
import ConfigCoverage.Proofs.Growth
import ConfigCoverage.Proofs.Helpers
import ConfigCoverage.Proofs.History
import ConfigCoverage.Proofs.JavaAlike
import ConfigCoverage.Proofs.JavaDeclarations
import ConfigCoverage.Proofs.JavaForms
import ConfigCoverage.Proofs.JavaLayout
import ConfigCoverage.Proofs.JavaLeaves
import ConfigCoverage.Proofs.JavaMethods
import ConfigCoverage.Proofs.JavaShapes
import ConfigCoverage.Proofs.JavaTransparency
import ConfigCoverage.Proofs.JsonText
import ConfigCoverage.Proofs.MergedResults
import ConfigCoverage.Proofs.NamedModules
import ConfigCoverage.Proofs.PythonLeaves
import ConfigCoverage.Proofs.Qualification
import ConfigCoverage.Proofs.QuoteStripping
import ConfigCoverage.Proofs.QuotedArguments
import ConfigCoverage.Proofs.Renaming
import ConfigCoverage.Proofs.ReportParts
import ConfigCoverage.Proofs.ResultText
import ConfigCoverage.Proofs.Results
import ConfigCoverage.Proofs.ScanOrder
import ConfigCoverage.Proofs.ScanSums
import ConfigCoverage.Proofs.SetterNames
import ConfigCoverage.Proofs.SourceEncoding
import ConfigCoverage.Proofs.SplitDeclarations
import ConfigCoverage.Proofs.TestPlaces
import ConfigCoverage.Proofs.TypeNames
import ConfigCoverage.Proofs.Verdict
import ConfigCoverage.Proofs.Walk
import ConfigCoverage.Proofs.WalkFuel
import ConfigCoverage.Proofs.WalkPaths
import ConfigCoverage.Property
import ConfigCoverage.Python.Grammar.Basic
import ConfigCoverage.Python.Grammar.Expressions
import ConfigCoverage.Python.Grammar.Patterns
import ConfigCoverage.Python.Grammar.Statements
import ConfigCoverage.Python.Literal
import ConfigCoverage.Python.Lowering
import ConfigCoverage.Python.Parser
import ConfigCoverage.Python.Token
import ConfigCoverage.Python.Tree
import ConfigCoverage.ResultMap
import ConfigCoverage.ResultMap.Json
import ConfigCoverage.Settings
import ConfigCoverage.Sorted.Map
import ConfigCoverage.Sorted.Set
import ConfigCoverage.Spelling
import ConfigCoverage.TestCase
import ConfigCoverage.Text.Blank
import ConfigCoverage.Text.Case
import ConfigCoverage.Text.Category
import ConfigCoverage.Text.CharName
import ConfigCoverage.Text.CharNameTable
import ConfigCoverage.Text.CharTable
import ConfigCoverage.Text.Digit
import ConfigCoverage.Text.Encoding
import ConfigCoverage.Text.Identifier
import ConfigCoverage.Text.Quoted
import ConfigCoverage.Toml.Parser
import ConfigCoverage.Toml.Value
