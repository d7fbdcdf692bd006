import CapsuleKit.Capsule.Builtin
import CapsuleKit.Capsule.Definition
import CapsuleKit.Capsule.Registry
import CapsuleKit.Capsule.Template
import CapsuleKit.Compile.Check
import CapsuleKit.Compile.Diagnostic
import CapsuleKit.Compile.Emission
import CapsuleKit.Compile.Generator
import CapsuleKit.Compile.Names
import CapsuleKit.Compile.Result
import CapsuleKit.Composition.Basic
import CapsuleKit.Composition.Instance
import CapsuleKit.Composition.Obstacle
import CapsuleKit.Composition.Walk
import CapsuleKit.Console.Arguments
import CapsuleKit.Console.Color
import CapsuleKit.Console.Command
import CapsuleKit.Console.Layout
import CapsuleKit.Console.Literal
import CapsuleKit.Console.Markup
import CapsuleKit.Console.Request
import CapsuleKit.Console.Style
import CapsuleKit.Console.Table
import CapsuleKit.Document.Display
import CapsuleKit.Document.KeyOrder
import CapsuleKit.Document.Moment
import CapsuleKit.Document.Value
import CapsuleKit.Files.Path
import CapsuleKit.Files.Tree
import CapsuleKit.Json.Obstacle
import CapsuleKit.Json.Reader
import CapsuleKit.Json.Writer
import CapsuleKit.Main
import CapsuleKit.Number.Binary64
import CapsuleKit.Number.Reading
import CapsuleKit.Number.Shortest
import CapsuleKit.Orchestrator.Basic
import CapsuleKit.Orchestrator.Summary
import CapsuleKit.Platform.Config
import CapsuleKit.Project.Documents
import CapsuleKit.Project.Error
import CapsuleKit.Project.LogLevel
import CapsuleKit.Project.Manifest
import CapsuleKit.Project.Output
import CapsuleKit.Proofs.Agreement
import CapsuleKit.Proofs.CallForms
import CapsuleKit.Proofs.Calls.Brackets
import CapsuleKit.Proofs.Calls.Layout
import CapsuleKit.Proofs.Calls.Reader
import CapsuleKit.Proofs.Calls.RoundTrip
import CapsuleKit.Proofs.Calls.Written
import CapsuleKit.Proofs.CaseConversions
import CapsuleKit.Proofs.Check
import CapsuleKit.Proofs.Console.ExitStatus
import CapsuleKit.Proofs.Console.InstanceNames
import CapsuleKit.Proofs.Console.Layout
import CapsuleKit.Proofs.Console.Markup
import CapsuleKit.Proofs.Console.Report
import CapsuleKit.Proofs.Console.Shown
import CapsuleKit.Proofs.Decode
import CapsuleKit.Proofs.DistinctPaths
import CapsuleKit.Proofs.Documents.Instance
import CapsuleKit.Proofs.Documents.RoundTrip
import CapsuleKit.Proofs.Documents.Shape
import CapsuleKit.Proofs.Documents.Spelling
import CapsuleKit.Proofs.Emission
import CapsuleKit.Proofs.Failures
import CapsuleKit.Proofs.Fallible
import CapsuleKit.Proofs.FirstOccurrences
import CapsuleKit.Proofs.FrontEnd
import CapsuleKit.Proofs.Indentation
import CapsuleKit.Proofs.JsonValues
import CapsuleKit.Proofs.Jsx.Expression
import CapsuleKit.Proofs.Jsx.Reader
import CapsuleKit.Proofs.Jsx.RoundTrip
import CapsuleKit.Proofs.Jsx.Written
import CapsuleKit.Proofs.Labels
import CapsuleKit.Proofs.Literals
import CapsuleKit.Proofs.MajorVersion
import CapsuleKit.Proofs.ManifestChecks
import CapsuleKit.Proofs.MinimumLevels
import CapsuleKit.Proofs.NameGrammar
import CapsuleKit.Proofs.Names
import CapsuleKit.Proofs.Nesting
import CapsuleKit.Proofs.Numerals
import CapsuleKit.Proofs.Orchestration
import CapsuleKit.Proofs.Outline
import CapsuleKit.Proofs.PackageAddresses
import CapsuleKit.Proofs.PackageTexts
import CapsuleKit.Proofs.PackageVersions
import CapsuleKit.Proofs.Packages
import CapsuleKit.Proofs.Page
import CapsuleKit.Proofs.Paths
import CapsuleKit.Proofs.Placeholders
import CapsuleKit.Proofs.PropNames
import CapsuleKit.Proofs.References
import CapsuleKit.Proofs.Registration
import CapsuleKit.Proofs.Segments
import CapsuleKit.Proofs.ShellPackage
import CapsuleKit.Proofs.Split
import CapsuleKit.Proofs.Theme.Agreement
import CapsuleKit.Proofs.Theme.Color
import CapsuleKit.Proofs.Theme.HexForm
import CapsuleKit.Proofs.Theme.Sheet
import CapsuleKit.Proofs.Theme.Sources
import CapsuleKit.Proofs.Toml.Texts
import CapsuleKit.Proofs.Versions
import CapsuleKit.Proofs.Walk
import CapsuleKit.Proofs.WalkOrder
import CapsuleKit.Proofs.Words
import CapsuleKit.Proofs.Writing
import CapsuleKit.Schema.Decode
import CapsuleKit.Schema.Problem
import CapsuleKit.Target.Android.Composable
import CapsuleKit.Target.Android.Project
import CapsuleKit.Target.Desktop.Project
import CapsuleKit.Target.Ios.Project
import CapsuleKit.Target.Ios.Version
import CapsuleKit.Target.Ios.View
import CapsuleKit.Target.Web.Jsx
import CapsuleKit.Target.Web.Packages
import CapsuleKit.Target.Web.Project
import CapsuleKit.Target.Web.Texts
import CapsuleKit.Text.Base64
import CapsuleKit.Text.Basic
import CapsuleKit.Text.Cased
import CapsuleKit.Text.Digit
import CapsuleKit.Text.Display
import CapsuleKit.Text.Escape
import CapsuleKit.Text.Lower
import CapsuleKit.Text.Printable
import CapsuleKit.Text.Upper
import CapsuleKit.Text.Width
import CapsuleKit.Text.WordChar
import CapsuleKit.Text.Words
import CapsuleKit.Theme.Basic
import CapsuleKit.Theme.Color
import CapsuleKit.Theme.Css
import CapsuleKit.Theme.Native
import CapsuleKit.Theme.Preset
import CapsuleKit.Theme.Tokens
import CapsuleKit.Toml.Number
import CapsuleKit.Toml.Reader
import CapsuleKit.Toml.Text
import CapsuleKit.Yaml.Block
import CapsuleKit.Yaml.Builder
import CapsuleKit.Yaml.Cursor
import CapsuleKit.Yaml.Graph
import CapsuleKit.Yaml.Plain
import CapsuleKit.Yaml.Quoted
import CapsuleKit.Yaml.Reader
import CapsuleKit.Yaml.Scalar
import CapsuleKit.Yaml.Tag
import CapsuleKit.Yaml.Token
import CapsuleKit.Yaml.Token.Lexer
import CapsuleKit.Yaml.Word
