import Shakedown.Build.Artifact
import Shakedown.Build.Command
import Shakedown.CommandLine.Arguments
import Shakedown.CommandLine.Execution
import Shakedown.CommandLine.Preparation
import Shakedown.CommandLine.Program
import Shakedown.CommandLine.Request
import Shakedown.CommandLine.Surroundings
import Shakedown.Decimal.Binary64
import Shakedown.Decimal.Numeral
import Shakedown.Failure
import Shakedown.Found
import Shakedown.Host.Condition
import Shakedown.Host.Error
import Shakedown.Host.Files
import Shakedown.Host.Format
import Shakedown.Host.Launch
import Shakedown.Host.Network
import Shakedown.Host.Outside
import Shakedown.Host.Schedule
import Shakedown.Host.Shell.Arithmetic
import Shakedown.Host.Shell.Builtin
import Shakedown.Host.Shell.Expansion
import Shakedown.Host.Shell.Machine
import Shakedown.Host.Shell.Parser
import Shakedown.Host.Shell.Pattern
import Shakedown.Host.Shell.Start
import Shakedown.Host.Shell.Syntax
import Shakedown.Host.Shell.Turn
import Shakedown.Host.Surroundings
import Shakedown.Host.System
import Shakedown.Host.Utility
import Shakedown.Host.Utility.Basic
import Shakedown.Host.Utility.Entries
import Shakedown.Host.Utility.Facts
import Shakedown.Host.Utility.Fields
import Shakedown.Host.Utility.Lines
import Shakedown.Host.Utility.Order
import Shakedown.Host.Utility.Regular
import Shakedown.Host.Utility.Search
import Shakedown.Host.World
import Shakedown.Json.Parser
import Shakedown.Json.Printer
import Shakedown.Json.Value
import Shakedown.Loading
import Shakedown.Log.Basic
import Shakedown.Log.Directive
import Shakedown.Log.Filter
import Shakedown.Log.Pattern
import Shakedown.Main
import Shakedown.Path.Basic
import Shakedown.Path.Project
import Shakedown.Plan.Basic
import Shakedown.Plan.Builtin
import Shakedown.Plan.Decode
import Shakedown.Plan.Load
import Shakedown.Plan.Root
import Shakedown.Plan.Summary
import Shakedown.Plan.Validate
import Shakedown.Process.Capture
import Shakedown.Process.Ending
import Shakedown.Process.Invocation
import Shakedown.Process.Signal
import Shakedown.Proofs.Session.Action
import Shakedown.Proofs.Session.Banner
import Shakedown.Readiness.Policy
import Shakedown.Readiness.Race
import Shakedown.Readiness.Wait
import Shakedown.Report.Basic
import Shakedown.Report.Json
import Shakedown.Report.Recorder
import Shakedown.Session.Banner
import Shakedown.Session.Expectation
import Shakedown.Session.Outside
import Shakedown.Session.Run
import Shakedown.Session.Server
import Shakedown.Session.State
import Shakedown.Settings.Basic
import Shakedown.Settings.Decode
import Shakedown.Settings.Load
import Shakedown.Settings.Location
import Shakedown.Stub.Answer
import Shakedown.Stub.Client
import Shakedown.Stub.Server
import Shakedown.Stub.Surroundings
import Shakedown.Text.Alphanumeric
import Shakedown.Text.Blank
import Shakedown.Text.FirstLine
import Shakedown.Text.Lines
import Shakedown.Text.Printable
import Shakedown.Text.Quoted
import Shakedown.Text.Search
import Shakedown.Text.Style
import Shakedown.Text.Utf8
import Shakedown.Toml.Document
import Shakedown.Toml.Problem
import Shakedown.Toml.Reader
import Shakedown.Toml.Scalar
import Shakedown.Toml.Table
import Shakedown.Toml.Value
import Shakedown.Yaml.Core
import Shakedown.Yaml.Cursor
import Shakedown.Yaml.Decode
import Shakedown.Yaml.Document
import Shakedown.Yaml.Lexer
import Shakedown.Yaml.Node
import Shakedown.Yaml.Problem
import Shakedown.Yaml.Scalar
import Shakedown.Yaml.Token
import Shakedown.Proofs.Session.Step
import Shakedown.Proofs.Session.CleanUp
import Shakedown.Proofs.Session.Course
import Shakedown.Proofs.Session.Schedule
import Shakedown.Proofs.Session.Records
import Shakedown.Proofs.Session.Custody
import Shakedown.Proofs.Process.Capture
import Shakedown.Proofs.Process.Completion
import Shakedown.Proofs.CommandLine.ExitStatus
import Shakedown.Proofs.Session.Verdict
import Shakedown.Proofs.Text.Encoding
import Shakedown.Proofs.Session.Clients
import Shakedown.Proofs.Readiness.Attempts
import Shakedown.Proofs.Readiness.Detection
import Shakedown.Proofs.Json.Grammar
import Shakedown.Proofs.Json.Writing
import Shakedown.Proofs.Json.Reading
import Shakedown.Proofs.Report.Decoding
import Shakedown.Proofs.Session.Phases
import Shakedown.Proofs.Session.ServerExit
import Shakedown.Proofs.Session.Fate
import Shakedown.Proofs.Session.Watch
import Shakedown.Proofs.Build.Composition
import Shakedown.Proofs.Session.FailureKinds
import Shakedown.Proofs.Plan.Validity
import Shakedown.Proofs.Readiness.Timing
import Shakedown.Proofs.Yaml.Carrying
import Shakedown.Proofs.Yaml.Edits
import Shakedown.Proofs.Yaml.Shapes
import Shakedown.Proofs.Yaml.Record
import Shakedown.Proofs.Plan.Sections
import Shakedown.Proofs.Plan.Restyling
import Shakedown.Proofs.Process.Transcript
import Shakedown.Proofs.Process.Interleaving
import Shakedown.Proofs.Session.ClientEnd
import Shakedown.Proofs.Session.Lifetime
import Shakedown.Proofs.Text.FirstLine
import Shakedown.Proofs.Json.Line
import Shakedown.Proofs.Stub.Exchange
import Shakedown.Proofs.Precedence
import Shakedown.Proofs.Plan.Faults
import Shakedown.Proofs.Path.Places
import Shakedown.Proofs.Build.Artifacts
import Shakedown.Proofs.Text.Lines
import Shakedown.Proofs.Session.Misfit
import Shakedown.Proofs.CommandLine.Obstacles
import Shakedown.Proofs.Session.Chronology
import Shakedown.Proofs.Toml.Keys
import Shakedown.Proofs.Settings.Given
import Shakedown.Proofs.Path.Components
import Shakedown.Proofs.Text.Splitting
import Shakedown.Proofs.Build.Programs
import Shakedown.Proofs.Host.FileSystem
import Shakedown.Proofs.Plan.Root
import Shakedown.Proofs.Decimal.Numeral
import Shakedown.Proofs.Plan.Address
import Shakedown.Proofs.Text.Words
import Shakedown.Proofs.Stub.Form
import Shakedown.Proofs.Readiness.Delays
import Shakedown.Proofs.Path.Ancestors
import Shakedown.Proofs.Host.ProjectRoot
import Shakedown.Proofs.Path.Resolution
