import Timebox.Call.Act
import Timebox.Call.Func
import Timebox.Call.Menu
import Timebox.Call.Numbers
import Timebox.Cli.Flags
import Timebox.Cli.Program
import Timebox.Command.Basic
import Timebox.Command.Run
import Timebox.Command.Words
import Timebox.Digest.Block
import Timebox.Digest.Crc
import Timebox.Digest.Md5
import Timebox.Digest.Sha1
import Timebox.Digest.Sha2
import Timebox.Double.Basic
import Timebox.Double.Layout
import Timebox.Double.Read
import Timebox.Double.Shortest
import Timebox.Double.Text
import Timebox.Duration.Basic
import Timebox.Duration.Parse
import Timebox.Duration.Seconds
import Timebox.Edit.Machine
import Timebox.Edit.Script
import Timebox.Encoding.Basic
import Timebox.Encoding.Charset
import Timebox.Encoding.Decode
import Timebox.Encoding.Index.Big5
import Timebox.Encoding.Index.Gb18030
import Timebox.Encoding.Index.Gbk
import Timebox.Encoding.Index.Jis0208
import Timebox.Encoding.Index.Jis0212
import Timebox.Encoding.Index.Korean
import Timebox.Encoding.Index.SingleByte
import Timebox.Event.Emitter
import Timebox.Files.System
import Timebox.Files.Tree
import Timebox.Format.Printf
import Timebox.Format.Spec
import Timebox.Format.Value
import Timebox.Json.Basic
import Timebox.Log.Entry
import Timebox.Log.Sinks
import Timebox.Main
import Timebox.Metrics.Executor
import Timebox.Metrics.Registry
import Timebox.Net.HostPort
import Timebox.Number.Factor
import Timebox.Process.Basic
import Timebox.Program.Concatenate
import Timebox.Program.Count
import Timebox.Program.Dump
import Timebox.Program.Encode
import Timebox.Program.Ends
import Timebox.Program.Expr
import Timebox.Program.Files
import Timebox.Program.Grep
import Timebox.Program.Lines
import Timebox.Program.Listing
import Timebox.Program.Names
import Timebox.Program.Numbers
import Timebox.Program.Options
import Timebox.Program.Paths
import Timebox.Program.Printf
import Timebox.Program.Sed
import Timebox.Program.Sequence
import Timebox.Program.Sums
import Timebox.Program.Tools
import Timebox.Program.Translate
import Timebox.Program.Xargs
import Timebox.Report.Command
import Timebox.Report.Duration
import Timebox.Report.Func
import Timebox.Report.Metrics
import Timebox.Report.Order
import Timebox.Report.Session
import Timebox.Report.Settings
import Timebox.Report.Value
import Timebox.Run.Bind
import Timebox.Run.Executor
import Timebox.Run.Frame
import Timebox.Run.Handoff
import Timebox.Run.Outcome
import Timebox.Session.Emitter
import Timebox.Session.Executor
import Timebox.Session.Log
import Timebox.Session.Registry
import Timebox.Session.WaitGroup
import Timebox.Settings.Basic
import Timebox.Settings.Load
import Timebox.Settings.Validate
import Timebox.Settings.Write
import Timebox.Shell.Arith
import Timebox.Shell.BashArith
import Timebox.Shell.BashBuiltin
import Timebox.Shell.Brace
import Timebox.Shell.Builtin
import Timebox.Shell.Fields
import Timebox.Shell.Parse
import Timebox.Shell.Pattern
import Timebox.Shell.Run
import Timebox.Shell.Script
import Timebox.Shell.State
import Timebox.Shell.Test
import Timebox.Sync.WaitGroup
import Timebox.Text.Base64
import Timebox.Text.Csv
import Timebox.Text.Glob
import Timebox.Text.Quote
import Timebox.Text.Quoting
import Timebox.Text.Raw
import Timebox.Text.Regex
import Timebox.Text.Search
import Timebox.Text.Space
import Timebox.Text.Unicode
import Timebox.Text.UnicodeData
import Timebox.Text.Utf8
import Timebox.Value.Basic
import Timebox.Value.Ty
import Timebox.Yaml.Decode
import Timebox.Yaml.Emit
import Timebox.Yaml.Node
import Timebox.Yaml.Parser
import Timebox.Yaml.Resolve
import Timebox.Yaml.Scanner
import Timebox.Yaml.Token
import Timebox.Proofs.Handoff
import Timebox.Proofs.WaitGroup
import Timebox.Proofs.Outcome
import Timebox.Proofs.Executor
import Timebox.Proofs.Abandoned
import Timebox.Proofs.Accounting
import Timebox.Proofs.Cancel
import Timebox.Proofs.LogFields
import Timebox.Proofs.Observe
import Timebox.Proofs.Wrap
import Timebox.Proofs.ExitCode
import Timebox.Proofs.Counter
import Timebox.Proofs.Arguments
import Timebox.Proofs.Binding
import Timebox.Command.Capture
import Timebox.Proofs.Capture
import Timebox.Proofs.CommandLine
import Timebox.Proofs.FileTree
import Timebox.Proofs.SettingsRoundTrip
