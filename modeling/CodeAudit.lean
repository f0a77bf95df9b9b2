import CodeAudit.Cloud.Assess
import CodeAudit.Cloud.Check
import CodeAudit.Cloud.Provider
import CodeAudit.Cloud.Report
import CodeAudit.Cloud.Rule
import CodeAudit.CommandLine.Arguments
import CodeAudit.CommandLine.Help
import CodeAudit.CommandLine.Run
import CodeAudit.CommandLine.Setting
import CodeAudit.Config.Basic
import CodeAudit.Config.Decode
import CodeAudit.Config.Load
import CodeAudit.Config.Template
import CodeAudit.Counting.Names
import CodeAudit.Counting.Ordered
import CodeAudit.Counting.Total
import CodeAudit.Dependency.Outcome
import CodeAudit.Dependency.Report
import CodeAudit.Dependency.Scan
import CodeAudit.Files.Discovery
import CodeAudit.Files.Entry
import CodeAudit.Files.Glob
import CodeAudit.Files.Ignore
import CodeAudit.Files.Language
import CodeAudit.Files.Path
import CodeAudit.Files.Record
import CodeAudit.Files.Statistics
import CodeAudit.Files.System
import CodeAudit.Finding.Basic
import CodeAudit.Finding.Level
import CodeAudit.Finding.Record
import CodeAudit.Floating.Basic
import CodeAudit.Floating.Shortest
import CodeAudit.Floating.Text
import CodeAudit.Json.Fault
import CodeAudit.Json.Lexeme
import CodeAudit.Json.Node
import CodeAudit.Json.Numeral
import CodeAudit.Json.Reader
import CodeAudit.Json.Value
import CodeAudit.Main
import CodeAudit.Migration.Analyze
import CodeAudit.Migration.Complexity
import CodeAudit.Migration.Framework
import CodeAudit.Migration.Plan
import CodeAudit.Migration.Step
import CodeAudit.Model.Answer
import CodeAudit.Model.Client
import CodeAudit.Model.Endpoint
import CodeAudit.Packaging.Pack
import CodeAudit.Packaging.Package
import CodeAudit.Pattern.Basic
import CodeAudit.Pattern.Code
import CodeAudit.Pattern.Text
import CodeAudit.Program.Run
import CodeAudit.Project.Audit
import CodeAudit.Proofs.Cloud.Consistency
import CodeAudit.Proofs.Cloud.ExactScore
import CodeAudit.Proofs.Cloud.FileOrder
import CodeAudit.Proofs.Cloud.Issues
import CodeAudit.Proofs.Cloud.Penalty
import CodeAudit.Proofs.Config.Overlay
import CodeAudit.Proofs.Counting
import CodeAudit.Proofs.Dependency.FirstSuccess
import CodeAudit.Proofs.Dependency.ReportFindings
import CodeAudit.Proofs.Dependency.ScannerKey
import CodeAudit.Proofs.Dependency.StaleReport
import CodeAudit.Proofs.Files.Change
import CodeAudit.Proofs.Files.Extension
import CodeAudit.Proofs.Files.Growth
import CodeAudit.Proofs.Files.Identity
import CodeAudit.Proofs.Files.Path
import CodeAudit.Proofs.Files.Recognition
import CodeAudit.Proofs.Files.Removal
import CodeAudit.Proofs.Files.Selection
import CodeAudit.Proofs.Files.Unlinking
import CodeAudit.Proofs.Files.Untouched
import CodeAudit.Proofs.Files.Visits
import CodeAudit.Proofs.Files.Walk
import CodeAudit.Proofs.Files.Writing
import CodeAudit.Proofs.Finding.Tally
import CodeAudit.Proofs.Floating.Accuracy
import CodeAudit.Proofs.Floating.Bounds
import CodeAudit.Proofs.Floating.Maximum
import CodeAudit.Proofs.Floating.Monotone
import CodeAudit.Proofs.Floating.Rounding
import CodeAudit.Proofs.Floating.TotalOrder
import CodeAudit.Proofs.Json.Decoding
import CodeAudit.Proofs.Json.Grammar
import CodeAudit.Proofs.Json.Lexing
import CodeAudit.Proofs.Json.Numbers
import CodeAudit.Proofs.Json.Numerals
import CodeAudit.Proofs.Json.Printing
import CodeAudit.Proofs.Json.Reading
import CodeAudit.Proofs.Json.Records
import CodeAudit.Proofs.Json.Schema
import CodeAudit.Proofs.Json.Trailing
import CodeAudit.Proofs.LineRules
import CodeAudit.Proofs.Migration.Detection
import CodeAudit.Proofs.Migration.FileOrder
import CodeAudit.Proofs.Migration.Frequency
import CodeAudit.Proofs.Migration.Growth
import CodeAudit.Proofs.Migration.Ranking
import CodeAudit.Proofs.Migration.Steps
import CodeAudit.Proofs.Migration.Weeks
import CodeAudit.Proofs.Model.Extraction
import CodeAudit.Proofs.Model.TwoObjects
import CodeAudit.Proofs.Model.Unusable
import CodeAudit.Proofs.Packaging.Bundle
import CodeAudit.Proofs.Packaging.Fallback
import CodeAudit.Proofs.Packaging.Scratch
import CodeAudit.Proofs.Project.Headline
import CodeAudit.Proofs.Project.LineEndings
import CodeAudit.Proofs.Project.Preparation
import CodeAudit.Proofs.Project.Scale
import CodeAudit.Proofs.Report.FilesByRisk
import CodeAudit.Proofs.Report.Headings
import CodeAudit.Proofs.Report.IssuesBySeverity
import CodeAudit.Proofs.Report.Outcome
import CodeAudit.Proofs.Report.Page
import CodeAudit.Proofs.Report.RoundTrip
import CodeAudit.Proofs.Report.RunId
import CodeAudit.Proofs.Report.Saving
import CodeAudit.Proofs.Report.Stamp
import CodeAudit.Proofs.Security.Alignment
import CodeAudit.Proofs.Security.LineNumbers
import CodeAudit.Proofs.Security.Merging
import CodeAudit.Proofs.Security.Question
import CodeAudit.Proofs.Security.Risk
import CodeAudit.Proofs.Sorting
import CodeAudit.Proofs.Structure.BranchWords
import CodeAudit.Proofs.Structure.Counts
import CodeAudit.Proofs.Text.ByteOrder
import CodeAudit.Proofs.Text.Cutting
import CodeAudit.Proofs.Text.LineEndings
import CodeAudit.Proofs.Text.Lines
import CodeAudit.Proofs.Text.Lowering
import CodeAudit.Proofs.Text.Trimming
import CodeAudit.Proofs.Text.Words
import CodeAudit.Report.Markdown
import CodeAudit.Report.Metadata
import CodeAudit.Report.Moment
import CodeAudit.Report.RunId
import CodeAudit.Report.Save
import CodeAudit.Security.Heuristic
import CodeAudit.Security.Report
import CodeAudit.Security.Review
import CodeAudit.Security.Rule
import CodeAudit.Security.Scan
import CodeAudit.Structure.Count
import CodeAudit.Structure.Language
import CodeAudit.Text.Case
import CodeAudit.Text.CaseTable
import CodeAudit.Text.Character
import CodeAudit.Text.CharacterTable
import CodeAudit.Text.HiddenTable
import CodeAudit.Text.Line
import CodeAudit.Text.Shown
import CodeAudit.Toml.Document
import CodeAudit.Toml.Scalar
import CodeAudit.Toml.Text
import CodeAudit.Toml.Value
