import LuaBundler.Bundle.Collect
import LuaBundler.Bundle.Document
import LuaBundler.Bundle.Prelude
import LuaBundler.Bundle.Report
import LuaBundler.Bundle.Strip
import LuaBundler.CommandLine.Arguments
import LuaBundler.CommandLine.Command
import LuaBundler.CommandLine.Execution
import LuaBundler.CommandLine.Output
import LuaBundler.Config.Basic
import LuaBundler.Config.Entry
import LuaBundler.Config.Load
import LuaBundler.Deploy
import LuaBundler.Digest.Md5
import LuaBundler.Digest.Sha
import LuaBundler.Duration
import LuaBundler.Environment
import LuaBundler.Files.Contents
import LuaBundler.Files.Error
import LuaBundler.Files.Machine
import LuaBundler.Files.Temporary
import LuaBundler.Files.Tree
import LuaBundler.Files.Walk
import LuaBundler.Graph.Basic
import LuaBundler.Graph.Build
import LuaBundler.Job.Analysis
import LuaBundler.Job.Basic
import LuaBundler.Job.Error
import LuaBundler.Job.Run
import LuaBundler.Job.Warning
import LuaBundler.Json.Reader
import LuaBundler.Json.Value
import LuaBundler.Main
import LuaBundler.ModuleName
import LuaBundler.Path
import LuaBundler.Process.Basic
import LuaBundler.Resolution
import LuaBundler.SearchPath
import LuaBundler.Shell.Arithmetic
import LuaBundler.Shell.Builtin.Basic
import LuaBundler.Shell.Builtin.Commands
import LuaBundler.Shell.Builtin.Files
import LuaBundler.Shell.Builtin.Jobs
import LuaBundler.Shell.Builtin.Print
import LuaBundler.Shell.Builtin.Test
import LuaBundler.Shell.Builtin.Variables
import LuaBundler.Shell.Evaluation
import LuaBundler.Shell.Expansion
import LuaBundler.Shell.Fields
import LuaBundler.Shell.Grammar
import LuaBundler.Shell.Host
import LuaBundler.Shell.Job
import LuaBundler.Shell.Lexer
import LuaBundler.Shell.Lookup
import LuaBundler.Shell.Pattern
import LuaBundler.Shell.Reader
import LuaBundler.Shell.Redirection
import LuaBundler.Shell.Startup
import LuaBundler.Shell.State
import LuaBundler.Shell.Syntax
import LuaBundler.Source.Position
import LuaBundler.Source.Require
import LuaBundler.Source.Segment
import LuaBundler.Stub
import LuaBundler.Syntax.Compiler
import LuaBundler.System.Change
import LuaBundler.System.Disk
import LuaBundler.System.Kernel
import LuaBundler.System.Loader
import LuaBundler.System.Octets
import LuaBundler.System.Process
import LuaBundler.System.Request
import LuaBundler.System.Service
import LuaBundler.Text.Blank
import LuaBundler.Text.Digits
import LuaBundler.Text.Split
import LuaBundler.Text.Utf8
import LuaBundler.Text.Word
import LuaBundler.Toml.Lexer
import LuaBundler.Toml.Reader
import LuaBundler.Toml.Value
import LuaBundler.Utility.Basic
import LuaBundler.Utility.Blocks
import LuaBundler.Utility.Calendar
import LuaBundler.Utility.Characters
import LuaBundler.Utility.Columns
import LuaBundler.Utility.Condition
import LuaBundler.Utility.Dates
import LuaBundler.Utility.Difference
import LuaBundler.Utility.Digests
import LuaBundler.Utility.Dump
import LuaBundler.Utility.Edit.Editor
import LuaBundler.Utility.Edit.Program
import LuaBundler.Utility.Edit.Script
import LuaBundler.Utility.Encoding
import LuaBundler.Utility.Entries
import LuaBundler.Utility.Expression
import LuaBundler.Utility.Find
import LuaBundler.Utility.Format
import LuaBundler.Utility.Identity
import LuaBundler.Utility.Launching
import LuaBundler.Utility.LineSource
import LuaBundler.Utility.Lines
import LuaBundler.Utility.Listing
import LuaBundler.Utility.Mode
import LuaBundler.Utility.Options
import LuaBundler.Utility.Real
import LuaBundler.Utility.Regex.Basic
import LuaBundler.Utility.Regex.Reader
import LuaBundler.Utility.Search
import LuaBundler.Utility.Streams
import LuaBundler.Utility.Table
import LuaBundler.Utility.Values
import LuaBundler.Worker.Outcome
import LuaBundler.Proofs.Bundle.Reachability
import LuaBundler.Proofs.Worker.Protocol
import LuaBundler.Proofs.Bundle.TextStripping
import LuaBundler.Proofs.Files.Components
import LuaBundler.Proofs.Files.Growth
import LuaBundler.Proofs.Files.Normal
import LuaBundler.Proofs.Graph.Contents
import LuaBundler.Proofs.Job.Content
import LuaBundler.Proofs.Bundle.Blocks
import LuaBundler.Proofs.Files.Removal
import LuaBundler.Proofs.Job.Leftovers
import LuaBundler.Proofs.Source.Discovery
import LuaBundler.Proofs.Graph.Cycles
import LuaBundler.Proofs.Deploy.Verbatim
import LuaBundler.Proofs.Bundle.WorkList
import LuaBundler.Proofs.Source.Reported
import LuaBundler.Proofs.Bundle.Remaining
import LuaBundler.Proofs.Graph.StrongComponents
import LuaBundler.Proofs.Search.FirstAnswers
import LuaBundler.Proofs.Bundle.Removal
import LuaBundler.Proofs.Graph.Precedence
import LuaBundler.Proofs.Bundle.RegistrationOrder
import LuaBundler.Proofs.Worker.MemberOrder
import LuaBundler.Proofs.Source.Expressions
import LuaBundler.Proofs.Syntax.Coverage
import LuaBundler.Proofs.Deploy.Atomicity
import LuaBundler.Proofs.Search.Confinement
import LuaBundler.Proofs.Bundle.NameLiterals
