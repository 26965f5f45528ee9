import EntityGen.Arguments
import EntityGen.Calendar
import EntityGen.Cleaning
import EntityGen.Command
import EntityGen.Config.Basic
import EntityGen.Config.Completion
import EntityGen.Config.Read
import EntityGen.Disk.Action
import EntityGen.Disk.Basic
import EntityGen.Disk.Lookup
import EntityGen.Disk.RealPath
import EntityGen.Emission.Artifact
import EntityGen.Emission.Context
import EntityGen.Emission.Model
import EntityGen.Emission.SourceFile
import EntityGen.Failure
import EntityGen.FileSize
import EntityGen.Filter.Matcher
import EntityGen.Filter.Rule
import EntityGen.Generation
import EntityGen.Glob
import EntityGen.Journal
import EntityGen.Json
import EntityGen.Launcher
import EntityGen.Loading
import EntityGen.Main
import EntityGen.Number.Double
import EntityGen.Number.Fixed
import EntityGen.Number.Numeral
import EntityGen.Number.Rounding
import EntityGen.Number.Shortest
import EntityGen.Path
import EntityGen.Pattern.CharTest
import EntityGen.Pattern.Parser
import EntityGen.Pattern.Program
import EntityGen.Pattern.Run
import EntityGen.Pattern.Syntax
import EntityGen.Schema.Catalog
import EntityGen.Schema.Scalar
import EntityGen.Schema.Service
import EntityGen.Schema.Signature
import EntityGen.Schema.Snapshot
import EntityGen.Schema.Table
import EntityGen.Schema.TypeMap
import EntityGen.Text.Alphanumeric
import EntityGen.Text.Base64
import EntityGen.Text.Blank
import EntityGen.Text.Case
import EntityGen.Text.Cased
import EntityGen.Text.CharName
import EntityGen.Text.CharName.Aliases
import EntityGen.Text.CharName.Ancient
import EntityGen.Text.CharName.Asian
import EntityGen.Text.CharName.European
import EntityGen.Text.CharName.Further
import EntityGen.Text.CharName.Hieroglyphs
import EntityGen.Text.CharName.Notation
import EntityGen.Text.CharName.Pictures
import EntityGen.Text.CharName.Symbols
import EntityGen.Text.Codes
import EntityGen.Text.Combining
import EntityGen.Text.Digit
import EntityGen.Text.Direction
import EntityGen.Text.Identifier
import EntityGen.Text.Joining
import EntityGen.Text.Lines
import EntityGen.Text.Printable
import EntityGen.Text.Quoted
import EntityGen.Text.Ranges
import EntityGen.Text.Script
import EntityGen.Text.UpperCase
import EntityGen.Value
import EntityGen.Value.SetOrder
import EntityGen.Value.Text
import EntityGen.Web.Address
import EntityGen.Web.Body
import EntityGen.Web.Label
import EntityGen.Web.LabelChar
import EntityGen.Web.Punycode
import EntityGen.Yaml.Content
import EntityGen.Yaml.Cursor
import EntityGen.Yaml.Document
import EntityGen.Yaml.Merge
import EntityGen.Yaml.Node
import EntityGen.Yaml.Scalar
import EntityGen.Yaml.ScalarValue
import EntityGen.Yaml.Tag
import EntityGen.Yaml.Token
import EntityGen.Proofs.Disk.Walk
import EntityGen.Proofs.Disk.Locate
import EntityGen.Proofs.Disk.Growth
import EntityGen.Proofs.Disk.Loss
import EntityGen.Proofs.Run
import EntityGen.Proofs.Cleaning.Frame
import EntityGen.Proofs.Disk.LinkFree
import EntityGen.Proofs.Disk.Order
import EntityGen.Proofs.Disk.Without
import EntityGen.Proofs.Cleaning.Files
import EntityGen.Proofs.Cleaning.Prune
import EntityGen.Proofs.Cleaning.DryRun
import EntityGen.Proofs.Generation.Output
import EntityGen.Proofs.Generation.Survey
import EntityGen.Proofs.Generation.Success
import EntityGen.Proofs.Config.Completion
import EntityGen.Proofs.Generation.Contents
import EntityGen.Proofs.Generation.Overwriting
import EntityGen.Proofs.Course
import EntityGen.Proofs.Disk.Passage
import EntityGen.Proofs.Generation.Order
import EntityGen.Proofs.Generation.Agreement
import EntityGen.Proofs.Generation.Prepared
import EntityGen.Proofs.Generation.Folders
import EntityGen.Proofs.Generation.Interruption
import EntityGen.Proofs.Generation.Containment
import EntityGen.Proofs.Cleaning.Sweep
import EntityGen.Proofs.Generation.Marks
import EntityGen.Proofs.Generation.Phases
import EntityGen.Proofs.Generation.Recorded
import EntityGen.Proofs.Generation.Stale
import EntityGen.Proofs.Generation.Repetition
import EntityGen.Proofs.Disk.Passable
import EntityGen.Proofs.Generation.Undoing
import EntityGen.Proofs.Value.Text
import EntityGen.Proofs.Json
import EntityGen.Proofs.Schema.Service
import EntityGen.Proofs.Blame
import EntityGen.Proofs.Schema.Blame
import EntityGen.Proofs.Generation.Blame
import EntityGen.Proofs.Command.Rejection
import EntityGen.Proofs.Loading
import EntityGen.Proofs.Value.Lookup
import EntityGen.Proofs.Schema.Result
import EntityGen.Proofs.Value.Equality
import EntityGen.Proofs.Web.Body
import EntityGen.Proofs.Schema.Sources
import EntityGen.Proofs.Cleaning.Progress
import EntityGen.Proofs.Command.Cleaning
import EntityGen.Proofs.Schema.Signature
import EntityGen.Proofs.Schema.Writing
import EntityGen.Proofs.Text.Cutting
import EntityGen.Proofs.Schema.Default
import EntityGen.Proofs.Number.Numeral
import EntityGen.Proofs.Yaml.Fault
import EntityGen.Proofs.Yaml.Cursor
import EntityGen.Proofs.Yaml.Scalar
import EntityGen.Proofs.Yaml.Token
import EntityGen.Proofs.Yaml.Document
import EntityGen.Proofs.Yaml.Merge
import EntityGen.Proofs.Yaml.Content
import EntityGen.Proofs.Yaml.ScalarValue
import EntityGen.Proofs.Yaml.Reading
import EntityGen.Proofs.Schema.Table
import EntityGen.Proofs.Filter.Rule
import EntityGen.Proofs.Glob
import EntityGen.Proofs.Pattern.Language
import EntityGen.Proofs.Pattern.Literal
import EntityGen.Proofs.Filter.Matcher
import EntityGen.Proofs.Calendar
import EntityGen.Proofs.Text.Separator
import EntityGen.Proofs.Emission.Artifact
import EntityGen.Proofs.Generation.Choice
import EntityGen.Proofs.Schema.Snapshot
import EntityGen.Proofs.Schema.Layout
import EntityGen.Proofs.Schema.Declaration
import EntityGen.Proofs.Disk.Hanging
import EntityGen.Proofs.Cleaning.Stripping
import EntityGen.Proofs.Cleaning.Passing
import EntityGen.Proofs.Json.Grammar
import EntityGen.Proofs.Json.Leaves
import EntityGen.Proofs.Json.Recognition
import EntityGen.Proofs.Web.Address
import EntityGen.Proofs.Schema.Attribution
import EntityGen.Proofs.Generation.Standing
import EntityGen.Proofs.Generation.Writing
import EntityGen.Proofs.Text.Lines
import EntityGen.Proofs.Emission.SourceFile
import EntityGen.Proofs.Emission.Model
import EntityGen.Proofs.Emission.Context
import EntityGen.Proofs.Emission.Block
import EntityGen.Proofs.Emission.Nullable
import EntityGen.Proofs.Emission.Directives
import EntityGen.Proofs.Generation.Imports
import EntityGen.Proofs.Config.Reading
import EntityGen.Proofs.Config.Relocation
import EntityGen.Proofs.Cleaning.Pruning
import EntityGen.Proofs.Text.Decimal
import EntityGen.Proofs.Schema.Stamp
import EntityGen.Proofs.Number.Double
import EntityGen.Proofs.FileSize
