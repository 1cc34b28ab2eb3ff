import SqlLint.FileSystem.Tree
import SqlLint.Finding.Json
import SqlLint.Main
import SqlLint.Run.Schedule
import SqlLint.Proofs.CommandLine.Priority
import SqlLint.Proofs.Configuration.Artifact
import SqlLint.Proofs.Configuration.Defaults
import SqlLint.Proofs.Configuration.Strictness
import SqlLint.Proofs.Discovery
import SqlLint.Proofs.Indexed.Analysis
import SqlLint.Proofs.Indexed.CommentEnd
import SqlLint.Proofs.Indexed.Progress
import SqlLint.Proofs.Linter.Layers
import SqlLint.Proofs.Plugin.Anchoring
import SqlLint.Proofs.Plugin.Comments
import SqlLint.Proofs.Plugin.Loading
import SqlLint.Proofs.Report.CompactLines
import SqlLint.Proofs.Report.Filenames
import SqlLint.Proofs.Report.Lines
import SqlLint.Proofs.Rules.Capitals
import SqlLint.Proofs.Rules.CommentText
import SqlLint.Proofs.Rules.SchemaRepair
import SqlLint.Proofs.Rules.SessionOptions
import SqlLint.Proofs.Rules.SizedTypes
import SqlLint.Proofs.Rules.StarLists
import SqlLint.Proofs.Rules.TokenOrder
import SqlLint.Proofs.Rules.TokenSequence
import SqlLint.Proofs.Run.Containment
import SqlLint.Proofs.Run.Forwarding
import SqlLint.Proofs.Script.Acceptance
import SqlLint.Proofs.Script.Coordinates
import SqlLint.Proofs.Script.Joining
import SqlLint.Proofs.Script.Printing
import SqlLint.Proofs.Script.Quoting
import SqlLint.Proofs.Syntax.LongestName
import SqlLint.Proofs.Syntax.Partner
