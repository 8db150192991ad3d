import DocSamples.CommandLine.Arguments
import DocSamples.CommandLine.Flag
import DocSamples.CommandLine.Program
import DocSamples.CommandLine.Usage
import DocSamples.Diagnostic
import DocSamples.Document
import DocSamples.Fence
import DocSamples.FileTree
import DocSamples.JsonValue
import DocSamples.Main
import DocSamples.Note
import DocSamples.Number.Double
import DocSamples.Number.Reading
import DocSamples.Number.Shortest
import DocSamples.Number.Writing
import DocSamples.Outcome
import DocSamples.Path
import DocSamples.Proofs.Acceptance
import DocSamples.Proofs.Block
import DocSamples.Proofs.ClosingFence
import DocSamples.Proofs.CommandOptions
import DocSamples.Proofs.Concatenation
import DocSamples.Proofs.Conclusion
import DocSamples.Proofs.DiagnosticReading
import DocSamples.Proofs.DigitRuns
import DocSamples.Proofs.Directories
import DocSamples.Proofs.DocumentReports
import DocSamples.Proofs.DocumentRun
import DocSamples.Proofs.Doubles
import DocSamples.Proofs.EffectiveSettings
import DocSamples.Proofs.Embedding
import DocSamples.Proofs.ErrorNames
import DocSamples.Proofs.ExitedCommands
import DocSamples.Proofs.FenceLine
import DocSamples.Proofs.FileReports
import DocSamples.Proofs.FileSelection
import DocSamples.Proofs.FinalBreak
import DocSamples.Proofs.ForcedStrategy
import DocSamples.Proofs.IllTypedSettings
import DocSamples.Proofs.Indentation
import DocSamples.Proofs.Ladder
import DocSamples.Proofs.LineBounds
import DocSamples.Proofs.LineBreaks
import DocSamples.Proofs.LineMapping
import DocSamples.Proofs.Lines
import DocSamples.Proofs.LoadFailures
import DocSamples.Proofs.Loading
import DocSamples.Proofs.Locations
import DocSamples.Proofs.NameSuffixes
import DocSamples.Proofs.NormalPaths
import DocSamples.Proofs.OrdinaryEndings
import DocSamples.Proofs.PathOrder
import DocSamples.Proofs.Plan
import DocSamples.Proofs.PlannedRuns
import DocSamples.Proofs.Precedence
import DocSamples.Proofs.Rendering
import DocSamples.Proofs.ReportAgreement
import DocSamples.Proofs.Running
import DocSamples.Proofs.SampleContract
import DocSamples.Proofs.SampleRun
import DocSamples.Proofs.SampleStatus
import DocSamples.Proofs.ScratchFiles
import DocSamples.Proofs.ScratchRuns
import DocSamples.Proofs.Segmentation
import DocSamples.Proofs.ShapeGrammar
import DocSamples.Proofs.ShapeLines
import DocSamples.Proofs.SmallLetters
import DocSamples.Proofs.SpelledDiagnostics
import DocSamples.Proofs.Spellings
import DocSamples.Proofs.Splitting
import DocSamples.Proofs.TagWords
import DocSamples.Proofs.ToolAnswers
import DocSamples.Proofs.ToolLockstep
import DocSamples.Proofs.Traversals
import DocSamples.Proofs.TreeShape
import DocSamples.Proofs.Trimming
import DocSamples.Proofs.UncheckedLines
import DocSamples.Proofs.UsableMessages
import DocSamples.Proofs.Utf8Coding
import DocSamples.Proofs.VerdictLines
import DocSamples.Proofs.WalkCourse
import DocSamples.Proofs.Walking
import DocSamples.Proofs.WrappedLines
import DocSamples.Proofs.WrittenSettings
import DocSamples.Selection
import DocSamples.Session
import DocSamples.Settings
import DocSamples.Settings.Loading
import DocSamples.Shape
import DocSamples.Strategy
import DocSamples.Summary
import DocSamples.Text.Base64
import DocSamples.Text.Basic
import DocSamples.Text.Blank
import DocSamples.Text.Digit
import DocSamples.Text.Lines
import DocSamples.Text.Lowercase
import DocSamples.Text.Points
import DocSamples.Text.Printable
import DocSamples.Text.Quoted
import DocSamples.Text.Ranges
import DocSamples.Text.Utf8
import DocSamples.Text.Word
import DocSamples.Tool
import DocSamples.Verdict
import DocSamples.Yaml.Building
import DocSamples.Yaml.Cursor
import DocSamples.Yaml.Data
import DocSamples.Yaml.Date
import DocSamples.Yaml.Graph
import DocSamples.Yaml.Input
import DocSamples.Yaml.Literal
import DocSamples.Yaml.Problem
import DocSamples.Yaml.Scalar
import DocSamples.Yaml.Slots
import DocSamples.Yaml.Tag
import DocSamples.Yaml.Token
import DocSamples.Yaml.Value
